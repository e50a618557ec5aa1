/-!
# Radio channels

The channels 11 to 26 of the 2.4 GHz band. A mask has one bit for each channel, at the
position of its number. The network uses a single channel.
-/

namespace Zigbee.Network.Channels

/-- Whether the band has the channel. -/
def exists? (channel : BitVec 8) : Bool :=
  11 ≤ channel.toNat && channel.toNat ≤ 26

/-- The mask of one channel of the band. -/
def single? (channel : BitVec 8) : Option (BitVec 32) :=
  if exists? channel then some (1#32 <<< channel.toNat) else none

/-- The positions of the bits of a mask. -/
def positions (mask : BitVec 32) : List Nat :=
  (List.range 32).filter mask.getLsbD

/-- The channel of a mask with exactly one bit. -/
def only? (mask : BitVec 32) : Option (BitVec 8) :=
  match positions mask with
  | [channel] => some (BitVec.ofNat 8 channel)
  | _ => none

end Zigbee.Network.Channels
