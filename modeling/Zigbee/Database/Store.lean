import Zigbee.Database.Content
import Zigbee.Database.Disk

/-!
# The database of devices

The devices of the network in memory and in a file. Devices are told apart by their
extended address and kept in the order in which they came. Inserting and removing a
device writes the file at once; that a device has been heard is written with the next
save. A revision counts the changes, so that `save` writes only what is new.
-/

namespace Zigbee.Database

/-- The database: the records, how often they have been changed, the revision that was
last written, and the file. -/
structure Store where
  records : List Record
  /-- Not bounded here; a word of 64 bits holds it for the first `2 ^ 64 - 1` changes. -/
  revision : Nat := 0
  saved : Nat := 0
  disk : Disk

namespace Store

/-- Load the database; a file that does not exist is created. -/
def load (disk : Disk) : Except Failure Store :=
  match disk.read with
  | .ok text =>
    match decode? text with
    | some records => .ok { records, disk }
    | none => .error .database
  | .error .notFound =>
    match disk.write (encode []) with
    | .ok disk => .ok { records := [], disk }
    | .error kind => .error (.io kind)
  | .error kind => .error (.io kind)

variable (s : Store)

/-- The devices, in order. -/
def devices : List Device := s.records.map (·.device)

/-- The record with the given extended address. -/
def record? (ieee : String) : Option Record :=
  s.records.find? (·.device.ieeeAddress == ieee)

/-- The device with the given extended address. -/
def device? (ieee : String) : Option Device :=
  (s.record? ieee).map (·.device)

/-- The device with the given network address. -/
def deviceAt? (network : String) : Option Device :=
  s.devices.find? (·.networkAddress == network)

/-- The state of the device with the given extended address. -/
def state? (ieee : String) : Option DeviceState :=
  (s.record? ieee).bind (·.state)

/-- Write the file if something has changed since it was last written. The answer tells
whether it was written. -/
def save : Except Failure Bool × Store :=
  if s.revision = s.saved then (.ok false, s)
  else match s.disk.write (encode s.records) with
    | .ok disk => (.ok true, { s with disk, saved := s.revision })
    | .error kind => (.error (.io kind), s)

/-- The first record that `p` holds of, replaced. -/
def replaceFirst {α : Type} (p : α → Bool) (f : α → α) : List α → List α
  | [] => []
  | a :: rest => if p a then f a :: rest else a :: replaceFirst p f rest

/-- The records with the device: in place of the one with its extended address, or at
the end. A new device may not take the network address of another one. -/
def insertRecord (records : List Record) (d : Device) : Except Failure (List Record) :=
  if records.any (·.device.ieeeAddress == d.ieeeAddress) then
    .ok (replaceFirst (·.device.ieeeAddress == d.ieeeAddress)
      (fun r => { r with device := d }) records)
  else match records.find? (·.device.networkAddress == d.networkAddress) with
    | some other => .error (.addressConflict d.networkAddress other.device.ieeeAddress)
    | none => .ok (records ++ [⟨d, none⟩])

/-- The store with other records, one revision on. -/
def change (records : List Record) : Store :=
  { s with records, revision := s.revision + 1 }

/-- Insert or replace a device and write the file. -/
def insert (d : Device) : Except Failure Unit × Store :=
  match insertRecord s.records d with
  | .error e => (.error e, s)
  | .ok records =>
    match (s.change records).save with
    | (.ok _, s) => (.ok (), s)
    | (.error e, s) => (.error e, s)

/-- Remove a device and write the file; the answer is the device. -/
def remove (ieee : String) : Except Failure Device × Store :=
  match s.record? ieee with
  | none => (.error (.deviceNotFound ieee), s)
  | some r =>
    match (s.change (s.records.eraseP (·.device.ieeeAddress == ieee))).save with
    | (.ok _, s) => (.ok r.device, s)
    | (.error e, s) => (.error e, s)

/-- Note that a device has been heard. The answer tells whether it is known. -/
def recordSeen (network : String) (quality : BitVec 8) (now : String) : Bool × Store :=
  if s.records.any (·.device.networkAddress == network) then
    (true, s.change (replaceFirst (·.device.networkAddress == network)
      (fun r => { r with state := some ⟨quality, now⟩ }) s.records))
  else (false, s)

end Store

end Zigbee.Database
