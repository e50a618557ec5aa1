import Zigbee.Radio.Indication
import Zigbee.Record.Form

/-!
# Sample layouts

Layouts that between them use every kind of field, each as small as it can be.
-/

namespace Zigbee.Record.Samples

open Wire

/-- Two modes. -/
def modes : Enumeration := ⟨"Mode", 1, [("Off", 0), ("On", 1)]⟩

/-- A record of one byte. -/
def inner : Layout := record [u8 "v"]

/-- Flags in two shared words. -/
def bitmask : Layout := record
  [u8 "f0",
   packed 2 [⟨"f1", .uint 2, 1⟩, ⟨"f2", .uint 2, 2⟩, ⟨"f3", .uint 2, 4⟩, ⟨"f4", .uint 2, 8⟩],
   u8 "f5", packed 1 [small "f6" 1, small "f7" 2]]

/-- Fields of many kinds, one record among them. -/
def mixed : Layout := record
  [u8 "v1", u8 "v2", has "mask" bitmask, hex 2 "hex", has "text" (.text (some 1)),
   has "arr" (.octets 2), has "hex_strings" (.addresses 1 2),
   has "structs" (.list (some 1) inner), has "uint_size" (.bounded 4 3 .little),
   has "uint_size_be" (.bounded 4 3 .big)]

/-- An address that is short or extended, depending on its mode. -/
def addr : Layout := record
  [u8 "addr_mode", when [.isNot "addr_mode" 3] "short_addr" (.address 2),
   when [.is "addr_mode" 3] "extended_addr" (.address 8),
   when [.is "addr_mode" 3] "endpoint" (.uint 1)]

/-- Conditions on a field of a nested record, a field that is not written, and an open end. -/
def schemaBinding : Layout := record
  [u16 "cluster", has "dst" addr,
   when [.is "dst.addr_mode" 3, .isNot "cluster" 0] "flag" (.uint 1),
   .transient "cache" (.uint 4), has "tail" (.bytes none)]

/-- A member and a number in one byte. -/
def nibbles : Layout := record
  [packed 1 [choice "mode" modes 0x03, small "level" 0xf0]]

/-- Numbers of every size, in both orders. -/
def ints : Layout := record
  [has "a" (.sint 1), has "b" (.sint 2), has "c" (.sint 4), has "d" (.sint 8), u64 "e",
   has "f" .bool, u16 "g", has "h" (.bounded 2 2 .big), has "i" (.bounded 4 4 .big),
   has "j" (.bounded 8 8 .big)]

/-- Numbers carried in fewer or more bytes than they are kept in. -/
def bounds : Layout := record
  [has "a" (.bounded 1 2 .little), has "b" (.bounded 4 3 .little), has "c" (.bounded 8 5 .big),
   has "d" (.bounded 8 10 .little), has "e" (.bounded 8 10 .big), has "f" (.bounded 2 1 .little),
   has "g" (.bounded 1 3 .big)]

/-- Counted lists and an open text. -/
def seqs : Layout := record
  [has "text" (.text (some 2)), has "codes" (.addresses 2 3),
   has "words" (.list (some 1) (.uint 2)), has "items" (.list (some 1) addr),
   has "rest" (.text none)]

/-- Conditions on numbers, truth values, members and absent fields. -/
def conds : Layout := record
  [has "flag" .bool, when [.is "flag" 1] "n" (.uint 2), when [.is "n" 5] "m" (.uint 1),
   oneOf "mode" modes, when [.isNot "mode" 0, .is "flag" 0] "label" (.text (some 1)),
   when [.isNot "n" 7] "last" (.bounded 4 3 .little)]

/-- Conditions on flags. -/
def flagged : Layout := record
  [u8 "caps", u8 "options", when [.isNot "caps" 0] "n" (.uint 1),
   when [.is "caps" 0x8e, .isNot "options" 1] "m" (.bounded 2 2 .big)]

/-- Members and numbers spread over words. -/
def carrier : Layout := record
  [packed 4 [⟨"lo", .uint 2, 0x0000ffff⟩, choice "mid" modes 0x00030000, small "hi" 0xff000000],
   packed 2 [flag "kind" 0x0c00, ⟨"top", .uint 4, 0x00f0⟩]]

/-- The samples by name, with the layouts of single values that may be missing. -/
def all : List (String × Layout) :=
  [("Inner", inner), ("Bitmask", bitmask), ("Mixed", mixed),
   ("Addr", addr), ("SchemaBinding", schemaBinding), ("Nibbles", nibbles),
   ("Ints", ints), ("Bounds", bounds), ("Seqs", seqs), ("Conds", conds),
   ("Flagged", flagged), ("Carrier", carrier),
   ("Option<u8>", .uint 1), ("Option<u32>", .uint 4), ("Option<String>", .text none),
   ("Option<AfDataConfirm>", Zigbee.Radio.IndicationKind.afDataConfirm.layout)]

end Zigbee.Record.Samples
