import VRCStreamer.Codec.BigEndian
import VRCStreamer.Codec.Json
import VRCStreamer.Presets.Server

/-!
# What a server says of itself

The message that greets a publisher, `streamer_hello_message` of `main.rs`, and the answer to a
request for `/stats`. The first is put together by hand, the second by a library. Both are objects
of JSON with the same members for what they share.
-/

namespace VRCStreamer

open Codec Text

/-! ## Addresses -/

structure Ipv4Addr where
  a : UInt8
  b : UInt8
  c : UInt8
  d : UInt8
  deriving DecidableEq, Repr

inductive IpAddr
  | v4 (ip : Ipv4Addr)
  | v6 (segments : Vector UInt16 8)
  deriving DecidableEq

structure SocketAddr where
  ip : IpAddr
  port : UInt16
  deriving DecidableEq

def Ipv4Addr.display (ip : Ipv4Addr) : Text :=
  ['.'].intercalate [decimal ip.a.toNat, decimal ip.b.toNat, decimal ip.c.toNat, decimal ip.d.toNat]

/-- The end of a scan for zeros: the longest run and the one that is open, each with its start. -/
structure ZeroRuns where
  longest : Nat × Nat := (0, 0)
  current : Nat × Nat := (0, 0)

/-- One segment of the scan. -/
def ZeroRuns.next (runs : ZeroRuns) (segment : UInt16 × Nat) : ZeroRuns :=
  if segment.1 = 0 then
    let start := if runs.current.2 = 0 then segment.2 else runs.current.1
    let current := (start, runs.current.2 + 1)
    { longest := if runs.longest.2 < current.2 then current else runs.longest, current }
  else { runs with current := (0, 0) }

def displaySegments (segments : List UInt16) : Text :=
  [':'].intercalate (segments.map (fun segment => Nat.toDigits 16 segment.toNat))

/-- Two colons stand for the first of the longest runs of zeros, unless it is a single one. -/
def displayIpv6 (segments : List UInt16) : Text :=
  match segments with
  | [0, 0, 0, 0, 0, 0xffff, high, low] =>
    "::ffff:".toList ++ Ipv4Addr.display ⟨(high >>> 8).toUInt8, high.toUInt8, (low >>> 8).toUInt8,
      low.toUInt8⟩
  | segments =>
    let zeroes := (segments.zipIdx.foldl ZeroRuns.next {}).longest
    if 1 < zeroes.2 then
      displaySegments (segments.take zeroes.1) ++ [':', ':'] ++
        displaySegments (segments.drop (zeroes.1 + zeroes.2))
    else displaySegments segments

def defaultRtspHost (bindAddr : SocketAddr) : Text :=
  match bindAddr.ip with
  | .v4 ip => if ip = ⟨0, 0, 0, 0⟩ then "127.0.0.1".toList else ip.display
  | .v6 segments =>
    if segments.toList.all (fun segment => segment = 0) then "[::1]".toList
    else '[' :: (displayIpv6 segments.toList ++ [']'])

/-! ## Requests -/

/-- The headers of a request, with their names in lower case. -/
abbrev HeaderMap := List (Text × Bytes)

def HeaderMap.get (headers : HeaderMap) (name : Text) : Option Bytes :=
  (headers.find? (fun header => header.1 = name)).map Prod.snd

/-- `HeaderValue::to_str`. -/
def headerText (value : Bytes) : Option Text :=
  if value.all (fun b => (32 ≤ b && b < 127) || b = 9) then
    some (value.map (fun b => Char.ofNat b.toNat))
  else none

def rtspHostFromHttpHost (value : Text) : Option Text :=
  let host := trim value
  if host = [] then none
  else if host.head? = some '[' then
    if ']' ∈ host then some (host.takeWhile (fun c => c ≠ ']') ++ [']']) else none
  else some (firstPiece [':'] host)

/-! ## The answer to a request for statistics -/

/-- The part of `Config` that both messages read. -/
structure InfoConfig where
  serverName : Text
  serverDescription : Text
  policiesLink : Option Text
  reportAbuseLink : Option Text
  rtspBindAddr : SocketAddr
  rtspPublicBase : Option Text
  videoEnabled : Bool
  videoQualities : List VideoQuality
  maxListenersTotal : Nat
  egressKbpsPerListener : Nat

/-- The public base is the configured one, if there is one. -/
def InfoConfig.publicRtspBase (config : InfoConfig) (headers : HeaderMap) : Text :=
  match config.rtspPublicBase with
  | some base => base
  | none =>
    let host := (((headers.get "host".toList).bind headerText).bind rtspHostFromHttpHost).getD
      (defaultRtspHost config.rtspBindAddr)
    if config.rtspBindAddr.port = 554 then "rtspt://".toList ++ host
    else "rtspt://".toList ++ host ++ [':'] ++ decimal config.rtspBindAddr.port.toNat

/-- The product saturates at the largest `usize`. -/
def InfoConfig.estimatedEgressKbps (config : InfoConfig) : Nat :=
  min (config.maxListenersTotal * config.egressKbpsPerListener) (2 ^ 64 - 1)

structure StatsResponse where
  name : Text
  description : Text
  policiesLink : Option Text
  reportAbuseLink : Option Text
  rtspBase : Text
  video : Bool
  videoQualities : List VideoQuality
  activeConnections : Nat
  activeStreamers : Nat
  activeListeners : Nat
  activeStreams : Nat
  estimatedEgressKbps : Nat

/-- The counters of `AppState`. -/
structure Activity where
  connections : Nat
  streamers : Nat
  listeners : Nat

/-- What the handler `stats` answers with. -/
def InfoConfig.stats (config : InfoConfig) (headers : HeaderMap) (active : Activity) :
    StatsResponse where
  name := config.serverName
  description := config.serverDescription
  policiesLink := config.policiesLink
  reportAbuseLink := config.reportAbuseLink
  rtspBase := config.publicRtspBase headers
  video := config.videoEnabled
  videoQualities := if config.videoEnabled then config.videoQualities else []
  activeConnections := active.connections
  activeStreamers := active.streamers
  activeListeners := active.listeners
  activeStreams := active.streamers
  estimatedEgressKbps := config.estimatedEgressKbps

def natJson (n : Nat) : Json := .number n 0

/-- An optional member is left out when it is absent. -/
def linkMember (key : Text) (link : Option Text) : List (Text × Json) :=
  (link.map (fun link => (key, Json.string link))).toList

/-- What the derived `Serialize` stands for. -/
def StatsResponse.json (response : StatsResponse) : Json :=
  .object
    (("name".toList, .string response.name) ::
      ("description".toList, .string response.description) ::
      (linkMember "policies_link".toList response.policiesLink ++
        linkMember "report_abuse_link".toList response.reportAbuseLink ++
        [("rtsp_base".toList, .string response.rtspBase),
          ("video".toList, .bool response.video),
          ("video_qualities".toList,
            .array (response.videoQualities.map (fun quality => .string quality.display))),
          ("active_connections".toList, natJson response.activeConnections),
          ("active_streamers".toList, natJson response.activeStreamers),
          ("active_listeners".toList, natJson response.activeListeners),
          ("active_streams".toList, natJson response.activeStreams),
          ("estimated_egress_kbps".toList, natJson response.estimatedEgressKbps)]))

/-! ## The message for a publisher -/

/-- A round of the loop of `push_json_string`. -/
def pushJsonChar (out : Text) (ch : Char) : Text :=
  if ch = '"' then out ++ ['\\', '"']
  else if ch = '\\' then out ++ ['\\', '\\']
  else if ch = '\n' then out ++ ['\\', 'n']
  else if ch = '\r' then out ++ ['\\', 'r']
  else if ch = '\t' then out ++ ['\\', 't']
  else if ch = '\x08' then out ++ ['\\', 'b']
  else if ch = '\x0c' then out ++ ['\\', 'f']
  else if ch.toNat ≤ 0x1f then out ++ '\\' :: 'u' :: hex 4 ch.toNat
  else out ++ [ch]

def pushJsonString (out : Text) (value : Text) : Text :=
  value.foldl pushJsonChar (out ++ ['"']) ++ ['"']

/-- `write_json_string`. -/
def VideoQuality.writeJsonString (quality : VideoQuality) (out : Text) : Text :=
  out ++ '"' :: (quality.display ++ ['"'])

/-- The loop over the qualities. -/
def pushQualities (index : Nat) (out : Text) : List VideoQuality → Text
  | [] => out
  | quality :: qualities =>
    let out := if index ≠ 0 then out ++ [','] else out
    pushQualities (index + 1) (quality.writeJsonString out) qualities

/-- A link and its name, if there is one. -/
def pushLink (out name : Text) : Option Text → Text
  | some link => pushJsonString (out ++ name) link
  | none => out

def streamerHelloMessage (config : InfoConfig) (listeners : Nat) (rtspBase : Text) : Text :=
  let out := "\x7b\"type\":\"hello\",\"name\":".toList
  let out := pushJsonString out config.serverName
  let out := out ++ ",\"description\":".toList
  let out := pushJsonString out config.serverDescription
  let out := pushLink out ",\"policies_link\":".toList config.policiesLink
  let out := pushLink out ",\"report_abuse_link\":".toList config.reportAbuseLink
  let out := out ++ ",\"rtsp_base\":".toList
  let out := pushJsonString out rtspBase
  let out := out ++ ",\"video\":".toList
  let out := out ++ (if config.videoEnabled then "true" else "false").toList
  let out := out ++ ",\"video_qualities\":[".toList
  let out := if config.videoEnabled then pushQualities 0 out config.videoQualities else out
  let out := out ++ [']']
  let out := out ++ ",\"listeners\":".toList
  let out := out ++ decimal listeners
  out ++ ['\x7d']

/-! ## What is pushed -/

theorem pushJsonChar_eq (out : Text) (ch : Char) :
    pushJsonChar out ch = out ++ Json.escapeChar ch := by
  simp only [pushJsonChar, Json.escapeChar, apply_ite (fun text => out ++ text)]

theorem foldl_pushJsonChar (out value : Text) :
    value.foldl pushJsonChar out = out ++ value.flatMap Json.escapeChar := by
  induction value generalizing out with
  | nil => exact (List.append_nil out).symm
  | cons ch value ih =>
    rw [List.foldl_cons, ih, pushJsonChar_eq, List.append_assoc, List.flatMap_cons]

theorem pushJsonString_eq (out value : Text) :
    pushJsonString out value = out ++ Json.encodeString value := by
  rw [pushJsonString, foldl_pushJsonChar, Json.encodeString]
  simp only [List.append_assoc, List.cons_append, List.nil_append]

/-- The name of a member and the colon, behind another member. -/
def fieldStart (key : Text) : Text := ',' :: (Json.encodeString key ++ [':'])

theorem encodeMember_eq (key : Text) (value : Json) :
    Json.encodeMember (key, value) = fieldStart key ++ Json.encode value := by
  simp only [Json.encodeMember, fieldStart, List.cons_append, List.append_assoc, List.nil_append]

theorem pushLink_eq (out key : Text) (link : Option Text) :
    pushLink out (fieldStart key) link =
      out ++ (linkMember key link).flatMap Json.encodeMember := by
  cases link with
  | none => exact (List.append_nil out).symm
  | some link =>
    show pushJsonString (out ++ fieldStart key) link =
      out ++ [(key, Json.string link)].flatMap Json.encodeMember
    rw [pushJsonString_eq, List.flatMap_singleton, encodeMember_eq, Json.encode, List.append_assoc]

theorem encodeString_display (quality : VideoQuality) :
    Json.encodeString quality.display = '"' :: (quality.display ++ ['"']) := by
  apply Json.encodeString_plain
  intro c hc
  have hne : ∀ d, d.isDigit = false → d ≠ 'x' → d ≠ '*' → d ≠ '/' → c ≠ d := by
    rintro d hdigit hx hstar hslash rfl
    exact VideoQuality.not_mem_display hdigit hx hstar hslash hc
  have hcode : ¬ c.toNat ≤ 0x1f := by
    obtain h | rfl | rfl | rfl := VideoQuality.mem_display hc
    · have := isDigit_bounds h
      omega
    all_goals decide
  rw [Json.escapeChar, if_neg (hne _ (by decide) (by decide) (by decide) (by decide)),
    if_neg (hne _ (by decide) (by decide) (by decide) (by decide)),
    if_neg (hne _ (by decide) (by decide) (by decide) (by decide)),
    if_neg (hne _ (by decide) (by decide) (by decide) (by decide)),
    if_neg (hne _ (by decide) (by decide) (by decide) (by decide)),
    if_neg (hne _ (by decide) (by decide) (by decide) (by decide)),
    if_neg (hne _ (by decide) (by decide) (by decide) (by decide)), if_neg hcode]

def qualityJson (quality : VideoQuality) : Json := .string quality.display

theorem pushQualities_more {index : Nat} (hindex : index ≠ 0) (out : Text)
    (qualities : List VideoQuality) : pushQualities index out qualities ++ [']'] =
      out ++ Json.encodeElements (qualities.map qualityJson) := by
  induction qualities generalizing index out with
  | nil => rw [pushQualities, List.map_nil, Json.encodeElements]
  | cons quality qualities ih =>
    rw [pushQualities, if_pos hindex, ih (Nat.succ_ne_zero index), List.map_cons,
      Json.encodeElements, qualityJson, Json.encode, encodeString_display,
      VideoQuality.writeJsonString]
    simp only [List.append_assoc, List.cons_append, List.nil_append]

theorem pushQualities_eq (out : Text) (qualities : List VideoQuality) :
    pushQualities 0 (out ++ ['[']) qualities ++ [']'] =
      out ++ Json.encode (.array (qualities.map qualityJson)) := by
  cases qualities with
  | nil =>
    rw [pushQualities, List.map_nil, Json.encode, List.append_assoc]
    rfl
  | cons quality qualities =>
    rw [pushQualities, if_neg (not_not.mpr rfl), pushQualities_more (Nat.succ_ne_zero 0),
      List.map_cons, Json.encode, qualityJson, Json.encode, encodeString_display,
      VideoQuality.writeJsonString]
    simp only [List.append_assoc, List.cons_append, List.nil_append]

/-! ## The message as an object -/

/-- The members that both messages share. -/
def InfoConfig.members (config : InfoConfig) (rtspBase : Text) : List (Text × Json) :=
  ("name".toList, .string config.serverName) ::
    ("description".toList, .string config.serverDescription) ::
    (linkMember "policies_link".toList config.policiesLink ++
      linkMember "report_abuse_link".toList config.reportAbuseLink ++
      [("rtsp_base".toList, .string rtspBase),
        ("video".toList, .bool config.videoEnabled),
        ("video_qualities".toList,
          .array ((if config.videoEnabled then config.videoQualities else []).map qualityJson))])

def helloJson (config : InfoConfig) (listeners : Nat) (rtspBase : Text) : Json :=
  .object (("type".toList, .string "hello".toList) ::
    (config.members rtspBase ++ [("listeners".toList, natJson listeners)]))

theorem encode_bool (value : Bool) :
    Json.encode (.bool value) = (if value then "true" else "false").toList := by
  cases value
  all_goals decide +kernel

theorem encode_natJson (n : Nat) : Json.encode (natJson n) = decimal n := by
  rw [natJson, Json.encode, if_pos rfl, List.append_nil, Json.encodeInt, if_neg (by omega),
    Int.natAbs_natCast]

/-- The list of qualities behind its bracket, as the message has it. -/
theorem pushQualities_if (out : Text) (enabled : Bool) (qualities : List VideoQuality) :
    (if enabled then pushQualities 0 (out ++ ['[']) qualities else out ++ ['[']) ++ [']'] =
      out ++ Json.encode (.array ((if enabled then qualities else []).map qualityJson)) := by
  cases enabled with
  | true => exact pushQualities_eq out qualities
  | false => exact pushQualities_eq out []

/-- The message is the compact form of an object. -/
theorem streamerHelloMessage_eq (config : InfoConfig) (listeners : Nat) (rtspBase : Text) :
    streamerHelloMessage config listeners rtspBase =
      Json.encode (helloJson config listeners rtspBase) := by
  have hstart : "\x7b\"type\":\"hello\",\"name\":".toList =
      '\x7b' :: (Json.encodeString "type".toList ++
        ':' :: (Json.encode (.string "hello".toList) ++ fieldStart "name".toList)) := by
    decide +kernel
  have hdescription : ",\"description\":".toList = fieldStart "description".toList := by
    decide +kernel
  have hpolicies : ",\"policies_link\":".toList = fieldStart "policies_link".toList := by
    decide +kernel
  have hreport : ",\"report_abuse_link\":".toList = fieldStart "report_abuse_link".toList := by
    decide +kernel
  have hrtsp : ",\"rtsp_base\":".toList = fieldStart "rtsp_base".toList := by decide +kernel
  have hvideo : ",\"video\":".toList = fieldStart "video".toList := by decide +kernel
  have hqualities : ∀ out, out ++ ",\"video_qualities\":[".toList =
      out ++ fieldStart "video_qualities".toList ++ ['['] := by
    have hbracket : ",\"video_qualities\":[".toList =
        fieldStart "video_qualities".toList ++ ['['] := by decide +kernel
    exact fun out => hbracket ▸ (List.append_assoc ..).symm
  have hlisteners : ",\"listeners\":".toList = fieldStart "listeners".toList := by decide +kernel
  simp only [streamerHelloMessage, hstart, hdescription, hpolicies, hreport, hrtsp, hvideo,
    hqualities, hlisteners, pushJsonString_eq, pushLink_eq, pushQualities_if, ← encode_bool,
    ← encode_natJson]
  simp only [helloJson, InfoConfig.members, Json.encode, Json.encodeMembers_eq,
    List.flatMap_append, List.flatMap_cons, List.flatMap_nil, encodeMember_eq, List.cons_append,
    List.nil_append, List.append_assoc]

/-! ## The same members -/

/-- The members of the answer that the message lacks. -/
def StatsResponse.counters (response : StatsResponse) : List (Text × Json) :=
  [("active_connections".toList, natJson response.activeConnections),
    ("active_streamers".toList, natJson response.activeStreamers),
    ("active_listeners".toList, natJson response.activeListeners),
    ("active_streams".toList, natJson response.activeStreams),
    ("estimated_egress_kbps".toList, natJson response.estimatedEgressKbps)]

theorem stats_json (config : InfoConfig) (headers : HeaderMap) (active : Activity) :
    (config.stats headers active).json =
      .object (config.members (config.publicRtspBase headers) ++
        (config.stats headers active).counters) := by
  show Json.object (_ :: _ :: (_ ++ _ ++ ([_, _, _] ++ (config.stats headers active).counters))) = _
  rw [← List.append_assoc]
  rfl

/-- The names that both messages share, in their order. -/
def sharedKeys : List Text :=
  ["name".toList, "description".toList, "policies_link".toList, "report_abuse_link".toList,
    "rtsp_base".toList, "video".toList, "video_qualities".toList]

theorem linkMember_keys (key : Text) (link : Option Text) :
    ((linkMember key link).map Prod.fst).Sublist [key] := by
  cases link with
  | none => exact List.nil_sublist _
  | some link => exact List.Sublist.refl _

/-- Optional members are left out, and the others keep their order. -/
theorem members_keys (config : InfoConfig) (rtspBase : Text) :
    ((config.members rtspBase).map Prod.fst).Sublist sharedKeys := by
  rw [InfoConfig.members, List.map_cons, List.map_cons, List.map_append, List.map_append]
  exact ((((linkMember_keys _ _).append (linkMember_keys _ _)).append
    (List.Sublist.refl _)).cons_cons _).cons_cons _

/-- Members with other names do not matter for a name. -/
theorem lookup_append_of_other {left right : List (Text × Json)} {key : Text}
    (h : key ∉ right.map Prod.fst) : (left ++ right).lookup key = left.lookup key := by
  have hnone : right.lookup key = none := by
    rw [List.lookup_eq_none_iff]
    intro member hmember
    rw [bne_iff_ne]
    rintro rfl
    exact h (List.mem_map_of_mem hmember)
  rw [List.lookup_append, hnone, Option.or_none]

/-- The message is valid, and so is the answer. Both have the same members for what they share,
absent or present alike, no name occurs twice, and the message adds the number of listeners. -/
theorem hello_describes_same_server (serialize : StatsResponse → Text)
    (hserialize : ∀ response, Json.decode (serialize response) = some response.json)
    (config : InfoConfig) (headers : HeaderMap) (listeners : Nat) (active : Activity) :
    let rtspBase := config.publicRtspBase headers
    let response := config.stats headers active
    let hello := ("type".toList, .string "hello".toList) ::
      (config.members rtspBase ++ [("listeners".toList, natJson listeners)])
    let stats := config.members rtspBase ++ response.counters
    Json.decode (streamerHelloMessage config listeners rtspBase) = some (.object hello) ∧
      Json.decode (serialize response) = some (.object stats) ∧
      (hello.map Prod.fst).Nodup ∧ (stats.map Prod.fst).Nodup ∧
      ∀ key ∈ sharedKeys, hello.lookup key = stats.lookup key := by
  intro rtspBase response hello stats
  have hkeys := members_keys config rtspBase
  refine ⟨?_, ?_, ?_, ?_, ?_⟩
  · rw [streamerHelloMessage_eq]
    exact Json.decode_encode _
  · rw [hserialize, stats_json]
  · have hall : ("type".toList :: (sharedKeys ++ ["listeners".toList])).Nodup := by decide +kernel
    refine hall.sublist ?_
    rw [List.map_cons, List.map_append]
    exact (hkeys.append (List.Sublist.refl _)).cons_cons _
  · have hall : (sharedKeys ++ ["active_connections".toList, "active_streamers".toList,
        "active_listeners".toList, "active_streams".toList,
        "estimated_egress_kbps".toList]).Nodup := by decide +kernel
    refine hall.sublist ?_
    rw [List.map_append]
    exact hkeys.append (List.Sublist.refl _)
  · intro key hkey
    have hother : key ≠ "type".toList ∧ key ∉ ["listeners".toList] ∧
        key ∉ ["active_connections".toList, "active_streamers".toList, "active_listeners".toList,
          "active_streams".toList, "estimated_egress_kbps".toList] := by
      revert hkey key
      decide +kernel
    obtain ⟨htype, hlisteners, hcounters⟩ := hother
    rw [List.lookup_cons, beq_eq_false_iff_ne.mpr htype]
    exact (lookup_append_of_other hlisteners).trans (lookup_append_of_other hcounters).symm

/-- A server with one link and a name with marks that must be escaped; the writer of the library
gives the compact form. -/
def markedConfig : InfoConfig where
  serverName := "Name \"A\"\\".toList
  serverDescription := ['L', '\n', '\x01', 'é']
  policiesLink := none
  reportAbuseLink := some "https://example.com/report".toList
  rtspBindAddr := ⟨.v4 ⟨0, 0, 0, 0⟩, 8554⟩
  rtspPublicBase := none
  videoEnabled := true
  videoQualities := [⟨1280, 720, 30, 2000⟩]
  maxListenersTotal := 85
  egressKbpsPerListener := 384

theorem hello_describes_same_server_marked :
    Json.decode (streamerHelloMessage markedConfig 7 (markedConfig.publicRtspBase [])) =
      some (.object (("type".toList, .string "hello".toList) ::
        (markedConfig.members (markedConfig.publicRtspBase []) ++
          [("listeners".toList, natJson 7)]))) :=
  (hello_describes_same_server (fun response => Json.encode response.json)
    (fun _ => Json.decode_encode _) markedConfig [] 7 ⟨3, 1, 2⟩).1

end VRCStreamer
