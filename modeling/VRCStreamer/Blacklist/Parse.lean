import VRCStreamer.Blacklist.Bans
import VRCStreamer.Rtsp.Uri
import VRCStreamer.Text.Runs

/-!
# Blacklist files

`parse_stream_blacklist` of `main.rs`: the entries of a file stand between semicolons and white
space. A file with an entry that is no stream id is refused as a whole.
-/

namespace VRCStreamer

def byteOrderMark : Char := '\uFEFF'

def isEntrySeparator (c : Char) : Bool := c = ';' || Text.isWhitespace c

def withoutMarks (entry : Text) : Text := entry.dropWhile (· = byteOrderMark)

def entryError (index : Nat) : Text :=
  "blacklist entry ".toList ++ Text.decimal (index + 1) ++
    " is not a 32-character hexadecimal stream ID".toList

/-- The loop over the entries; `index` counts the ones that have been read. -/
def readEntries (index : Nat) (entries : Finset Text) : List Text → Except Text (Finset Text)
  | [] => .ok entries
  | entry :: rest =>
    let entry := withoutMarks entry
    if validHash entry = false then .error (entryError index)
    else readEntries (index + 1) (insert (Text.toAsciiLowercase entry) entries) rest

def parseStreamBlacklist (contents : Text) : Except Text (Finset Text) :=
  readEntries 0 ∅ (runs isEntrySeparator contents)

/-! ## The loop -/

section ReadEntries

variable {index : Nat} {entries ids : Finset Text} {list : List Text} {reason : Text}

theorem readEntries_eq_ok : readEntries index entries list = .ok ids ↔
    (∀ entry ∈ list, validHash (withoutMarks entry) = true) ∧
      ids = entries ∪
        (list.map (fun entry => Text.toAsciiLowercase (withoutMarks entry))).toFinset := by
  induction list generalizing index entries with
  | nil =>
    rw [readEntries, List.map_nil, List.toFinset_nil, Finset.union_empty, Except.ok.injEq]
    exact ⟨fun h => ⟨nofun, h.symm⟩, fun h => h.2.symm⟩
  | cons entry rest ih =>
    rw [readEntries, List.forall_mem_cons, List.map_cons, List.toFinset_cons]
    cases hvalid : validHash (withoutMarks entry) with
    | false => simp
    | true =>
      rw [if_neg (by decide), ih, Finset.insert_union, Finset.union_insert]
      simp

theorem readEntries_eq_error (h : readEntries index entries list = .error reason) :
    ∃ number ≥ index, reason = entryError number := by
  induction list generalizing index entries with
  | nil => cases h
  | cons entry rest ih =>
    rw [readEntries] at h
    split at h
    next =>
      cases h
      exact ⟨index, Nat.le_refl index, rfl⟩
    next =>
      obtain ⟨number, hle, hreason⟩ := ih h
      exact ⟨number, by omega, hreason⟩

end ReadEntries

theorem decimal_injective : Function.Injective Text.decimal := by
  have hleft : Function.LeftInverse (fun digits => Nat.ofDigitChars 10 digits 0) Text.decimal :=
    fun n => Nat.ofDigitChars_toDigits (by decide) (by decide)
  exact hleft.injective

theorem entryError_injective : Function.Injective entryError := by
  have hcancel : ∀ front back number number' : Text,
      front ++ number ++ back = front ++ number' ++ back → number = number' := by
    intro front back number number' h
    exact List.append_cancel_left (List.append_cancel_right h)
  intro index index' h
  exact Nat.succ_injective (decimal_injective (hcancel _ _ _ _ h))

/-! ## Marks -/

theorem withoutMarks_cons (entry : Text) :
    withoutMarks (byteOrderMark :: entry) = withoutMarks entry :=
  List.dropWhile_cons_of_pos (by simp)

theorem withoutMarks_of_notMem {entry : Text} (h : byteOrderMark ∉ entry) :
    withoutMarks entry = entry := by
  cases entry with
  | nil => rfl
  | cons c entry =>
    rw [withoutMarks, List.dropWhile_cons_of_neg]
    have hne := List.ne_of_not_mem_cons h
    simpa using hne.symm

theorem not_separator_mark : isEntrySeparator byteOrderMark = false := by decide

/-- The files whose first entry takes the mark in front of them, or is refused anyway. -/
def TakesMark (contents : Text) : Prop :=
  contents.head?.any (fun c => !isEntrySeparator c) = true ∨
    (runs isEntrySeparator contents).head?.any (fun entry => !validHash (withoutMarks entry)) = true

instance (contents : Text) : Decidable (TakesMark contents) :=
  inferInstanceAs (Decidable (_ ∨ _))

theorem parse_mark_of_solid {c : Char} (h : isEntrySeparator c = false) (rest : Text) :
    parseStreamBlacklist (byteOrderMark :: c :: rest) = parseStreamBlacklist (c :: rest) := by
  obtain ⟨entry, entries, hshort, hlong⟩ := runs_cons_of_solid not_separator_mark h rest
  rw [parseStreamBlacklist, parseStreamBlacklist, hshort, hlong, readEntries, readEntries,
    withoutMarks_cons]

/-- A mark that no entry takes is an entry. -/
theorem parse_mark_alone {contents : Text}
    (h : contents.head?.any (fun c => !isEntrySeparator c) = false) :
    parseStreamBlacklist (byteOrderMark :: contents) = .error (entryError 0) := by
  have hruns : ∃ entries, runs isEntrySeparator (byteOrderMark :: contents) =
      [byteOrderMark] :: entries := by
    have hsolid : ∀ c ∈ [byteOrderMark], isEntrySeparator c = false := by
      simpa using not_separator_mark
    cases contents with
    | nil => exact ⟨[], runs_of_solid (by simp) hsolid⟩
    | cons c rest =>
      have hc : isEntrySeparator c = true := by simpa using h
      have hsplit : byteOrderMark :: c :: rest = [byteOrderMark] ++ c :: rest := rfl
      rw [hsplit, runs_append_separator hc, runs_of_solid (by simp) hsolid]
      exact ⟨_, rfl⟩
  obtain ⟨entries, hentries⟩ := hruns
  have hempty : validHash (withoutMarks [byteOrderMark]) = false := by decide
  rw [parseStreamBlacklist, hentries, readEntries]
  exact if_pos hempty

theorem parse_eq_first_error {contents : Text} :
    parseStreamBlacklist contents = .error (entryError 0) ↔
      (runs isEntrySeparator contents).head?.any
        (fun entry => !validHash (withoutMarks entry)) = true := by
  rw [parseStreamBlacklist]
  cases runs isEntrySeparator contents with
  | nil => simp [readEntries]
  | cons entry rest =>
    rw [readEntries]
    cases hvalid : validHash (withoutMarks entry) with
    | false => simp [hvalid]
    | true =>
      rw [if_neg (by decide)]
      simp only [List.head?_cons, Option.any_some, hvalid, Bool.not_true, Bool.false_eq_true,
        iff_false]
      intro h
      obtain ⟨number, hle, hnumber⟩ := readEntries_eq_error h
      have hzero := entryError_injective hnumber
      omega

theorem parse_mark_iff (contents : Text) :
    parseStreamBlacklist (byteOrderMark :: contents) = parseStreamBlacklist contents ↔
      TakesMark contents := by
  cases hfirst : contents.head?.any (fun c => !isEntrySeparator c) with
  | true =>
    cases contents with
    | nil => cases hfirst
    | cons c rest =>
      have hc : isEntrySeparator c = false := by simpa using hfirst
      exact ⟨fun _ => .inl hfirst, fun _ => parse_mark_of_solid hc rest⟩
  | false =>
    rw [parse_mark_alone hfirst, TakesMark, hfirst, eq_comm, parse_eq_first_error]
    simp

/-! ## What a file lists -/

/-- A file lists the id of each of its runs, in lower case. -/
def ListsId (contents id : Text) : Prop :=
  ∃ run, IsRun isEntrySeparator contents run ∧ id = Text.toAsciiLowercase run

theorem isHexDigit_toLower (c : Char) : c.toLower.isHexDigit = c.isHexDigit := by
  by_cases hupper : 'A'.val ≤ c.val ∧ c.val ≤ 'Z'.val
  · have hall : ∀ n < 26, (Char.ofNat (n + 65)).toLower.isHexDigit =
        (Char.ofNat (n + 65)).isHexDigit := by decide +kernel
    have hrange : 65 ≤ c.toNat ∧ c.toNat ≤ 90 :=
      ⟨UInt32.le_iff_toNat_le.mp hupper.1, UInt32.le_iff_toNat_le.mp hupper.2⟩
    have hc := hall (c.toNat - 65) (by omega)
    rw [Nat.sub_add_cancel hrange.1, Char.ofNat_toNat] at hc
    exact hc
  · have hsame : c.toLower = c := dif_neg hupper
    rw [hsame]

theorem validHash_toAsciiLowercase (text : Text) :
    validHash (Text.toAsciiLowercase text) = validHash text := by
  simp only [validHash, Text.toAsciiLowercase, List.length_map, List.all_map, Function.comp_def,
    isHexDigit_toLower]

theorem mark_notMem_run {contents run : Text} (h : byteOrderMark ∉ contents)
    (hrun : IsRun isEntrySeparator contents run) : byteOrderMark ∉ run := by
  obtain ⟨front, back, rfl, -⟩ := hrun.maximal
  simp only [List.mem_append, not_or] at h
  exact h.1.2

theorem parse_eq_ok {contents : Text} (h : byteOrderMark ∉ contents) (ids : Finset Text) :
    parseStreamBlacklist contents = .ok ids ↔
      (∀ run, IsRun isEntrySeparator contents run → validHash run = true) ∧
        ∀ id, id ∈ ids ↔ ListsId contents id := by
  have hplain : ∀ run ∈ runs isEntrySeparator contents, withoutMarks run = run :=
    fun run hmem => withoutMarks_of_notMem (mark_notMem_run h (mem_runs_iff.mp hmem))
  have hmap : (runs isEntrySeparator contents).map
      (fun entry => Text.toAsciiLowercase (withoutMarks entry)) =
        (runs isEntrySeparator contents).map Text.toAsciiLowercase := by
    apply List.map_congr_left
    intro run hmem
    rw [hplain run hmem]
  have hlists : ∀ id, id ∈ ((runs isEntrySeparator contents).map Text.toAsciiLowercase).toFinset ↔
      ListsId contents id := by
    intro id
    simp only [List.mem_toFinset, List.mem_map, mem_runs_iff, ListsId, eq_comm]
  rw [parseStreamBlacklist, readEntries_eq_ok, hmap, Finset.empty_union]
  apply and_congr
  · constructor
    · intro hvalid run hrun
      have hmem := mem_runs_iff.mpr hrun
      have hentry := hvalid run hmem
      rw [hplain run hmem] at hentry
      exact hentry
    · intro hvalid run hmem
      rw [hplain run hmem]
      exact hvalid run (mem_runs_iff.mp hmem)
  · rw [Finset.ext_iff]
    exact forall_congr' (fun id => iff_congr Iff.rfl (hlists id))

theorem ListsId.valid {contents other id : Text} (h : ListsId contents id)
    (hsame : ∀ id, ListsId contents id ↔ ListsId other id)
    (hvalid : ∀ run, IsRun isEntrySeparator other run → validHash run = true) :
    validHash id = true := by
  obtain ⟨run, hrun, rfl⟩ := (hsame id).mp h
  rw [validHash_toAsciiLowercase]
  exact hvalid run hrun

/-- Files that list the same ids are read alike. -/
theorem parse_congr {contents other : Text} (h : byteOrderMark ∉ contents)
    (hother : byteOrderMark ∉ other) (hsame : ∀ id, ListsId contents id ↔ ListsId other id)
    {ids : Finset Text} (hok : parseStreamBlacklist other = .ok ids) :
    parseStreamBlacklist contents = .ok ids := by
  obtain ⟨hvalid, hids⟩ := (parse_eq_ok hother ids).mp hok
  rw [parse_eq_ok h]
  constructor
  · intro run hrun
    rw [← validHash_toAsciiLowercase]
    exact ListsId.valid ⟨run, hrun, rfl⟩ hsame hvalid
  · intro id
    rw [hids, hsame]

theorem parse_append {contents other : Text} {ids ids' : Finset Text}
    (h : parseStreamBlacklist contents = .ok ids) (h' : parseStreamBlacklist other = .ok ids') :
    parseStreamBlacklist (contents ++ ';' :: other) = .ok (ids ∪ ids') := by
  obtain ⟨hvalid, rfl⟩ := readEntries_eq_ok.mp h
  obtain ⟨hvalid', rfl⟩ := readEntries_eq_ok.mp h'
  have hseparator : isEntrySeparator ';' = true := by decide
  rw [parseStreamBlacklist, runs_append_separator hseparator, readEntries_eq_ok]
  refine ⟨List.forall_mem_append.mpr ⟨hvalid, hvalid'⟩, ?_⟩
  rw [List.map_append, List.toFinset_append, Finset.empty_union, Finset.empty_union,
    Finset.empty_union]

/-- A file without marks means the set of its ids; a mark in front of a file is overlooked exactly
if the first entry takes it or is refused anyway. -/
theorem parseStreamBlacklist_meaning (contents : Text) :
    (parseStreamBlacklist (byteOrderMark :: contents) = parseStreamBlacklist contents ↔
      TakesMark contents) ∧
    (byteOrderMark ∉ contents → ∀ ids, parseStreamBlacklist contents = .ok ids ↔
      (∀ run, IsRun isEntrySeparator contents run → validHash run = true) ∧
        ∀ id, id ∈ ids ↔ ListsId contents id) ∧
    (byteOrderMark ∉ contents → ∀ other, byteOrderMark ∉ other →
      (∀ id, ListsId contents id ↔ ListsId other id) → ∀ ids,
        parseStreamBlacklist contents = .ok ids ↔ parseStreamBlacklist other = .ok ids) ∧
    ∀ other ids ids', parseStreamBlacklist contents = .ok ids →
      parseStreamBlacklist other = .ok ids' →
        parseStreamBlacklist (contents ++ ';' :: other) = .ok (ids ∪ ids') := by
  refine ⟨parse_mark_iff contents, fun h => parse_eq_ok h, ?_, ?_⟩
  · intro h other hother hsame ids
    exact ⟨parse_congr hother h (fun id => (hsame id).symm), parse_congr h hother hsame⟩
  · intro other ids ids' h h'
    exact parse_append h h'

/-- A mark in front of nothing or of a line break makes a file invalid. -/
theorem parseStreamBlacklist_mark_alone :
    parseStreamBlacklist [] = .ok ∅ ∧
      parseStreamBlacklist [byteOrderMark] = .error (entryError 0) ∧
    parseStreamBlacklist ('\n' :: List.replicate 32 'A') = .ok {List.replicate 32 'a'} ∧
      parseStreamBlacklist (byteOrderMark :: '\n' :: List.replicate 32 'A') =
        .error (entryError 0) :=
  ⟨rfl, parse_mark_alone rfl, by decide +kernel, parse_mark_alone rfl⟩

end VRCStreamer
