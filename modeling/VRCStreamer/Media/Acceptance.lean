import VRCStreamer.Media.ByteStream
import VRCStreamer.Media.StreamerFrame

/-!
# Which streams are accepted

`inspect_h264_access_unit` on a byte stream of NAL units: exactly which streams it lets through,
and what it says of them.
-/

namespace VRCStreamer

open Codec

/-! ## NAL units -/

def nalType (nal : Bytes) : Nat := (nalHeader nal &&& 0x1f).toNat

section

variable {first : StreamUnit} {units : List StreamUnit} {trailing maxBytes : Nat}
variable {keyframe singleNal : Bool}

end

end VRCStreamer
