import Zigbee.Wire.Enumeration

/-!
# Statuses of the cluster library

The status with which a device answers a command on its attributes, and the direction
in which an attribute is reported.
-/

namespace Zigbee.Attribute

/-- The statuses of the cluster library. -/
def statuses : Wire.Enumeration :=
  ⟨"ZclStatus", 1,
    [("Success", 0x00), ("Failure", 0x01), ("NotAuthorized", 0x7e), ("MalformedCommand", 0x80),
     ("UnsupClusterCommand", 0x81), ("UnsupGeneralCommand", 0x82),
     ("UnsupManuClusterCommand", 0x83), ("UnsupManuGeneralCommand", 0x84),
     ("InvalidField", 0x85), ("UnsupportedAttribute", 0x86), ("InvalidValue", 0x87),
     ("ReadOnly", 0x88), ("InsufficientSpace", 0x89), ("DuplicateExists", 0x8a),
     ("NotFound", 0x8b), ("UnreportableAttribute", 0x8c), ("InvalidDataType", 0x8d),
     ("InvalidSelector", 0x8e), ("WriteOnly", 0x8f), ("InconsistentStartupState", 0x90),
     ("DefinedOutOfBand", 0x91), ("Inconsistent", 0x92), ("ActionDenied", 0x93),
     ("Timeout", 0x94), ("Abort", 0x95), ("InvalidImage", 0x96), ("WaitForData", 0x97),
     ("NoImageAvailable", 0x98), ("RequireMoreImage", 0x99), ("HardwareFailure", 0xc0),
     ("SoftwareFailure", 0xc1), ("CalibrationError", 0xc2), ("CmdHasRsp", 0xff)]⟩

/-- A status of the cluster library. -/
abbrev Status := statuses.Member

namespace Status

/-- The command was carried out. -/
def success : Status := ⟨0x00, by decide⟩

/-- Whether the command was carried out. -/
def isSuccess (s : Status) : Bool := s.code == 0

@[simp] theorem isSuccess_success : success.isSuccess = true := rfl

theorem eq_success_of_isSuccess {s : Status} (h : s.isSuccess = true) : s = success :=
  Wire.Enumeration.Member.ext (by simpa [isSuccess, success] using h)

end Status

/-- Who sends the reports of an attribute. -/
def reportDirections : Wire.Enumeration :=
  ⟨"ReportDirection", 1, [("AttributeReported", 0x00), ("AttributeReceived", 0x01)]⟩

/-- Whether a device sends or receives the reports of an attribute. -/
abbrev ReportDirection := reportDirections.Member

namespace ReportDirection

/-- The device sends reports. -/
def reported : ReportDirection := ⟨0x00, by decide⟩

/-- The device receives reports. -/
def received : ReportDirection := ⟨0x01, by decide⟩

/-- A direction is one of the two. -/
theorem eq_reported_or_eq_received (d : ReportDirection) : d = reported ∨ d = received := by
  have h := d.listed
  simp [Wire.Enumeration.codes, reportDirections] at h
  rcases h with h | h
  · exact .inl (Wire.Enumeration.Member.ext h)
  · exact .inr (Wire.Enumeration.Member.ext h)

end ReportDirection

end Zigbee.Attribute
