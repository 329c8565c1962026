/-
  UTIL: where the EtherType of a frame is.

  PROFINET frames are commonly 802.1Q priority-tagged, and whether the tag reaches a raw socket
  depends on the driver, so a receiver skips any number of tags.
-/
import Profinet.Lib.Wire

namespace Profinet.Util

open Wire

/-- A MAC address, `[u8; 6]`. -/
abbrev Mac := { b : List UInt8 // b.length = 6 }

/-- TPIDs that introduce an 802.1Q / 802.1ad tag. -/
def vlanTpids : List UInt16 := [0x8100, 0x88A8]

/-- Bytes taken by the tags at the front of `bytes`: one round of the `while` loop per tag,
    which needs all four bytes of the tag to be there. -/
def tagBytes : List UInt8 → Nat
  | a :: b :: _ :: _ :: rest => if vlanTpids.contains (ofBe16 a b) then tagBytes rest + 4 else 0
  | _ => 0

/-- Byte offset of the real EtherType in an Ethernet frame (`skip_vlan_tags`): 12 for an
    untagged frame, plus 4 per tag. -/
def skipVlanTags (frame : List UInt8) : Nat := 12 + tagBytes (frame.drop 12)

end Profinet.Util
