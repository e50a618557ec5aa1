import Zigbee.Serial.Frame

/-!
# Captured frames

Frames that the radio sent are appended to a file, one line each, behind the time at
which they were received. The queue in front of the file holds a limited number of
frames and drops its oldest ones.
-/

namespace Zigbee.Serial.Capture

/-- The line of a frame, without the end of the line. -/
def line (timestamp : String) (f : Frame) : String :=
  timestamp ++ " " ++ f.describe

/-- What is left of the frames in a queue of the given capacity. -/
def kept (capacity : Nat) (frames : List Frame) : List Frame :=
  frames.drop (frames.length - capacity)

end Zigbee.Serial.Capture
