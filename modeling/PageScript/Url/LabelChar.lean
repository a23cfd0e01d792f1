import PageScript.Text.Digit
import PageScript.Text.Lowering

/-!
# The characters of host labels

Which characters may stand in the label of a host name, and what the rules for labels ask about them:
the direction in which they are written, how they join with their neighbours, and their script.
-/

namespace PageScript.Url.Idna

open Text (inRanges isDecimal isLetter isMark isTransparent lowerChar)

set_option maxRecDepth 20000

/-- Change points of the set of characters that may stand anywhere in a label without being small letters,
marks or digits. The capital Cherokee letters are among them, since the small ones fold to them. -/
def alsoPermittedBounds : Array Nat := #[
  0x2D, 0x2E, 0x6FD, 0x6FF, 0xF0B, 0xF0C, 0x13A0, 0x13F6, 0x3007, 0x3008]

/-- Change points of the set of small letters, marks and digits that may not stand anywhere in a label,
most of them because they have a plainer spelling. -/
def excludedBounds : Array Nat := #[
  0xAA, 0xAB, 0xB5, 0xB6, 0xBA, 0xBB, 0x133, 0x134, 0x140, 0x141, 0x149, 0x14A, 0x17F, 0x180, 0x1C6,
  0x1C7, 0x1C9, 0x1CA, 0x1CC, 0x1CD, 0x1F3, 0x1F4, 0x2B0, 0x2B9, 0x2E0, 0x2E5, 0x340, 0x342, 0x343,
  0x346, 0x34F, 0x350, 0x374, 0x375, 0x37A, 0x37B, 0x3D0, 0x3D7, 0x3F0, 0x3F3, 0x3F5, 0x3F6, 0x488,
  0x48A, 0x587, 0x588, 0x640, 0x641, 0x660, 0x66A, 0x675, 0x679, 0x6F0, 0x6FA, 0x7FA, 0x7FB, 0x958,
  0x960, 0x9DC, 0x9DE, 0x9DF, 0x9E0, 0xA33, 0xA34, 0xA36, 0xA37, 0xA59, 0xA5C, 0xA5E, 0xA5F, 0xB5C,
  0xB5E, 0xE33, 0xE34, 0xEB3, 0xEB4, 0xEDC, 0xEDE, 0xF43, 0xF44, 0xF4D, 0xF4E, 0xF52, 0xF53, 0xF57,
  0xF58, 0xF5C, 0xF5D, 0xF69, 0xF6A, 0xF73, 0xF74, 0xF75, 0xF7A, 0xF81, 0xF82, 0xF93, 0xF94, 0xF9D,
  0xF9E, 0xFA2, 0xFA3, 0xFA7, 0xFA8, 0xFAC, 0xFAD, 0xFB9, 0xFBA, 0x10FC, 0x10FD, 0x1100, 0x1200,
  0x13F8, 0x13FE, 0x17B4, 0x17B6, 0x180B, 0x180E, 0x180F, 0x1810, 0x1ABE, 0x1ABF, 0x1C80, 0x1C89,
  0x1D2C, 0x1D2F, 0x1D30, 0x1D3B, 0x1D3C, 0x1D4E, 0x1D4F, 0x1D6B, 0x1D78, 0x1D79, 0x1D9B, 0x1DC0,
  0x1E9A, 0x1E9C, 0x1F71, 0x1F72, 0x1F73, 0x1F74, 0x1F75, 0x1F76, 0x1F77, 0x1F78, 0x1F79, 0x1F7A,
  0x1F7B, 0x1F7C, 0x1F7D, 0x1F7E, 0x1F80, 0x1F88, 0x1F90, 0x1F98, 0x1FA0, 0x1FA8, 0x1FB2, 0x1FB5,
  0x1FB7, 0x1FB8, 0x1FBE, 0x1FBF, 0x1FC2, 0x1FC5, 0x1FC7, 0x1FC8, 0x1FD3, 0x1FD4, 0x1FE3, 0x1FE4,
  0x1FF2, 0x1FF5, 0x1FF7, 0x1FF8, 0x2071, 0x2072, 0x207F, 0x2080, 0x2090, 0x209D, 0x20D0, 0x20F1,
  0x2102, 0x2103, 0x2107, 0x2108, 0x210A, 0x2114, 0x2115, 0x2116, 0x2119, 0x211E, 0x2124, 0x2125,
  0x2128, 0x2129, 0x212C, 0x212E, 0x212F, 0x2132, 0x2133, 0x213A, 0x213C, 0x2140, 0x2145, 0x214A,
  0x2C7C, 0x2C7E, 0x2D6F, 0x2D70, 0x302E, 0x3030, 0x3031, 0x3036, 0x303B, 0x303C, 0x309F, 0x30A0,
  0x30FF, 0x3100, 0x3131, 0x318F, 0xA670, 0xA673, 0xA69C, 0xA69E, 0xA770, 0xA771, 0xA7F2, 0xA7F5,
  0xA7F8, 0xA7FA, 0xA960, 0xA97D, 0xAB5C, 0xAB60, 0xAB69, 0xAB6A, 0xAB70, 0xABC0, 0xD7B0, 0xD7C7,
  0xD7CB, 0xD7FC, 0xF900, 0xFA0E, 0xFA10, 0xFA11, 0xFA12, 0xFA13, 0xFA15, 0xFA1F, 0xFA20, 0xFA21,
  0xFA22, 0xFA23, 0xFA25, 0xFA27, 0xFA2A, 0xFA6E, 0xFA70, 0xFADA, 0xFB00, 0xFB07, 0xFB13, 0xFB18,
  0xFB1D, 0xFB1E, 0xFB1F, 0xFB29, 0xFB2A, 0xFB37, 0xFB38, 0xFB3D, 0xFB3E, 0xFB3F, 0xFB40, 0xFB42,
  0xFB43, 0xFB45, 0xFB46, 0xFBB2, 0xFBD3, 0xFD3E, 0xFD50, 0xFD90, 0xFD92, 0xFDC8, 0xFDF0, 0xFDFC,
  0xFE00, 0xFE10, 0xFE70, 0xFE73, 0xFE74, 0xFE75, 0xFE76, 0xFEFD, 0xFF10, 0xFF1A, 0xFF41, 0xFF5B,
  0xFF66, 0xFFBF, 0xFFC2, 0xFFC8, 0xFFCA, 0xFFD0, 0xFFD2, 0xFFD8, 0xFFDA, 0xFFDD, 0x10781, 0x10786,
  0x10787, 0x107B1, 0x107B2, 0x107BB, 0x1D165, 0x1D16A, 0x1D16D, 0x1D173, 0x1D17B, 0x1D183, 0x1D185,
  0x1D18C, 0x1D1AA, 0x1D1AE, 0x1D242, 0x1D245, 0x1D400, 0x1D455, 0x1D456, 0x1D49D, 0x1D49E, 0x1D4A0,
  0x1D4A2, 0x1D4A3, 0x1D4A5, 0x1D4A7, 0x1D4A9, 0x1D4AD, 0x1D4AE, 0x1D4BA, 0x1D4BB, 0x1D4BC, 0x1D4BD,
  0x1D4C4, 0x1D4C5, 0x1D506, 0x1D507, 0x1D50B, 0x1D50D, 0x1D515, 0x1D516, 0x1D51D, 0x1D51E, 0x1D53A,
  0x1D53B, 0x1D53F, 0x1D540, 0x1D545, 0x1D546, 0x1D547, 0x1D54A, 0x1D551, 0x1D552, 0x1D6A6, 0x1D6A8,
  0x1D6C1, 0x1D6C2, 0x1D6DB, 0x1D6DC, 0x1D6FB, 0x1D6FC, 0x1D715, 0x1D716, 0x1D735, 0x1D736, 0x1D74F,
  0x1D750, 0x1D76F, 0x1D770, 0x1D789, 0x1D78A, 0x1D7A9, 0x1D7AA, 0x1D7C3, 0x1D7C4, 0x1D7CC, 0x1D7CE,
  0x1D800, 0x1EE00, 0x1EE04, 0x1EE05, 0x1EE20, 0x1EE21, 0x1EE23, 0x1EE24, 0x1EE25, 0x1EE27, 0x1EE28,
  0x1EE29, 0x1EE33, 0x1EE34, 0x1EE38, 0x1EE39, 0x1EE3A, 0x1EE3B, 0x1EE3C, 0x1EE42, 0x1EE43, 0x1EE47,
  0x1EE48, 0x1EE49, 0x1EE4A, 0x1EE4B, 0x1EE4C, 0x1EE4D, 0x1EE50, 0x1EE51, 0x1EE53, 0x1EE54, 0x1EE55,
  0x1EE57, 0x1EE58, 0x1EE59, 0x1EE5A, 0x1EE5B, 0x1EE5C, 0x1EE5D, 0x1EE5E, 0x1EE5F, 0x1EE60, 0x1EE61,
  0x1EE63, 0x1EE64, 0x1EE65, 0x1EE67, 0x1EE6B, 0x1EE6C, 0x1EE73, 0x1EE74, 0x1EE78, 0x1EE79, 0x1EE7D,
  0x1EE7E, 0x1EE7F, 0x1EE80, 0x1EE8A, 0x1EE8B, 0x1EE9C, 0x1EEA1, 0x1EEA4, 0x1EEA5, 0x1EEAA, 0x1EEAB,
  0x1EEBC, 0x1FBF0, 0x1FBFA, 0x2F800, 0x2FA1E, 0xE0100, 0xE01F0]

/-- A character that may stand anywhere in a label. -/
def isPermitted (n : Nat) : Bool :=
  let c := Char.ofNat n
  inRanges alsoPermittedBounds n ||
    (isLetter c || isMark n || isDecimal c) && lowerChar c == c && !inRanges excludedBounds n

/-- The direction in which a character is written. -/
inductive Direction where
  | leftToRight
  | rightToLeft
  /-- A letter of the Arabic script or one like it. -/
  | arabicLetter
  | arabicNumber
  | europeanNumber
  /-- A mark, which goes with the character in front of it. -/
  | mark
  | neutral
deriving DecidableEq, Repr

/-- Change points of the set of characters written from right to left. -/
def rightToLeftBounds : Array Nat := #[
  0x5D0, 0x5F5, 0x7C0, 0x7EB, 0x7F4, 0x7F6, 0x800, 0x816, 0x81A, 0x81B, 0x824, 0x825, 0x828,
  0x829, 0x840, 0x859, 0x10800, 0x10A01, 0x10A10, 0x10A36, 0x10A60, 0x10AE5, 0x10B00, 0x10CF3,
  0x10E80, 0x10EAA, 0x10EB0, 0x10F28, 0x10F70, 0x10F82, 0x10FB0, 0x10FF7, 0x1E800, 0x1E8C5,
  0x1E922, 0x1E944, 0x1E94B, 0x1E95A]

/-- Change points of the set of Arabic letters. -/
def arabicLetterBounds : Array Nat := #[
  0x620, 0x64B, 0x66E, 0x670, 0x671, 0x6D6, 0x6E5, 0x6E7, 0x6EE, 0x6F0, 0x6FA, 0x711, 0x712,
  0x730, 0x74D, 0x7A6, 0x7B1, 0x7B2, 0x860, 0x88F, 0x8A0, 0x8CA, 0xFE73, 0xFE74, 0x10D00, 0x10D24,
  0x10F30, 0x10F46]

/-- Change points of the set of Arabic digits. -/
def arabicNumberBounds : Array Nat := #[
  0x660, 0x66A, 0x10D30, 0x10D3A]

/-- Change points of the set of European digits. -/
def europeanNumberBounds : Array Nat := #[
  0x30, 0x3A, 0x6F0, 0x6FA]

/-- The characters of labels that take no room and are written from left to right all the same. -/
def transparentLetters : List Nat := [0xCBF, 0xCC6, 0x11A07, 0x11A08, 0x11C3F]

/-- A mark without a direction, among the characters of labels. -/
def isDirectionMark (n : Nat) : Bool :=
  n == 0x1171E || isTransparent n && !transparentLetters.contains n

/-- Change points of the set of neutral characters. -/
def neutralBounds : Array Nat := #[
  0x2D, 0x2E, 0xB7, 0xB8, 0x2B9, 0x2BB, 0x2C6, 0x2D0, 0x2EC, 0x2ED, 0x375, 0x376, 0x200C, 0x200E,
  0x2E2F, 0x2E30, 0x30FB, 0x30FC, 0xA67F, 0xA680, 0xA717, 0xA720, 0xA788, 0xA789]

/-- The direction of a character of a label. -/
def direction (n : Nat) : Direction :=
  if inRanges rightToLeftBounds n then .rightToLeft
  else if inRanges arabicLetterBounds n then .arabicLetter
  else if inRanges arabicNumberBounds n then .arabicNumber
  else if inRanges europeanNumberBounds n then .europeanNumber
  else if isDirectionMark n then .mark
  else if inRanges neutralBounds n then .neutral
  else .leftToRight

/-- Change points of the set of characters that join on their left side only. -/
def joinsLeftBounds : Array Nat := #[
  0xA872, 0xA873, 0x10ACD, 0x10ACE, 0x10AD7, 0x10AD8, 0x10D00, 0x10D01, 0x10FCB, 0x10FCC]

/-- Change points of the set of characters that join on both sides. -/
def joinsBothBounds : Array Nat := #[
  0x620, 0x621, 0x626, 0x627, 0x628, 0x629, 0x62A, 0x62F, 0x633, 0x640, 0x641, 0x648, 0x649,
  0x64B, 0x66E, 0x670, 0x678, 0x688, 0x69A, 0x6C0, 0x6C1, 0x6C3, 0x6CC, 0x6CD, 0x6CE, 0x6CF,
  0x6D0, 0x6D2, 0x6FA, 0x6FD, 0x6FF, 0x700, 0x712, 0x715, 0x71A, 0x71E, 0x71F, 0x728, 0x729,
  0x72A, 0x72B, 0x72C, 0x72D, 0x72F, 0x74E, 0x759, 0x75C, 0x76B, 0x76D, 0x771, 0x772, 0x773,
  0x775, 0x778, 0x77A, 0x780, 0x7CA, 0x7EB, 0x841, 0x846, 0x848, 0x849, 0x84A, 0x854, 0x855,
  0x856, 0x860, 0x861, 0x862, 0x866, 0x868, 0x869, 0x886, 0x887, 0x889, 0x88E, 0x8A0, 0x8AA,
  0x8AF, 0x8B1, 0x8B3, 0x8B9, 0x8BA, 0x8C9, 0x1807, 0x1808, 0x1820, 0x1879, 0x1887, 0x18A9,
  0x18AA, 0x18AB, 0xA840, 0xA872, 0x10AC0, 0x10AC5, 0x10AD3, 0x10AD7, 0x10AD8, 0x10ADD, 0x10ADE,
  0x10AE1, 0x10AEB, 0x10AEF, 0x10B80, 0x10B81, 0x10B82, 0x10B83, 0x10B86, 0x10B89, 0x10B8A,
  0x10B8C, 0x10B8D, 0x10B8E, 0x10B90, 0x10B91, 0x10BAD, 0x10BAF, 0x10D01, 0x10D22, 0x10D23,
  0x10D24, 0x10F30, 0x10F33, 0x10F34, 0x10F45, 0x10F51, 0x10F54, 0x10F70, 0x10F74, 0x10F76,
  0x10F82, 0x10FB0, 0x10FB1, 0x10FB2, 0x10FB4, 0x10FB8, 0x10FB9, 0x10FBB, 0x10FBD, 0x10FBE,
  0x10FC0, 0x10FC1, 0x10FC2, 0x10FC4, 0x10FC5, 0x10FCA, 0x10FCB, 0x1E900, 0x1E944]

/-- Change points of the set of characters that join on their right side only. -/
def joinsRightBounds : Array Nat := #[
  0x622, 0x626, 0x627, 0x628, 0x629, 0x62A, 0x62F, 0x633, 0x648, 0x649, 0x671, 0x674, 0x675,
  0x678, 0x688, 0x69A, 0x6C0, 0x6C1, 0x6C3, 0x6CC, 0x6CD, 0x6CE, 0x6CF, 0x6D0, 0x6D2, 0x6D4,
  0x6D5, 0x6D6, 0x6EE, 0x6F0, 0x710, 0x711, 0x715, 0x71A, 0x71E, 0x71F, 0x728, 0x729, 0x72A,
  0x72B, 0x72C, 0x72D, 0x72F, 0x730, 0x74D, 0x74E, 0x759, 0x75C, 0x76B, 0x76D, 0x771, 0x772,
  0x773, 0x775, 0x778, 0x77A, 0x840, 0x841, 0x846, 0x848, 0x849, 0x84A, 0x854, 0x855, 0x856,
  0x859, 0x867, 0x868, 0x869, 0x86B, 0x870, 0x883, 0x88E, 0x88F, 0x8AA, 0x8AD, 0x8AE, 0x8AF,
  0x8B1, 0x8B3, 0x8B9, 0x8BA, 0x10AC5, 0x10AC6, 0x10AC7, 0x10AC8, 0x10AC9, 0x10ACB, 0x10ACE,
  0x10AD3, 0x10ADD, 0x10ADE, 0x10AE1, 0x10AE2, 0x10AE4, 0x10AE5, 0x10AEF, 0x10AF0, 0x10B81,
  0x10B82, 0x10B83, 0x10B86, 0x10B89, 0x10B8A, 0x10B8C, 0x10B8D, 0x10B8E, 0x10B90, 0x10B91,
  0x10B92, 0x10BA9, 0x10BAD, 0x10D22, 0x10D23, 0x10F33, 0x10F34, 0x10F54, 0x10F55, 0x10F74,
  0x10F76, 0x10FB4, 0x10FB7, 0x10FB9, 0x10FBB, 0x10FBD, 0x10FBE, 0x10FC2, 0x10FC4, 0x10FC9,
  0x10FCA]

/-- A character that joins with the one behind it. -/
def joinsOnward (n : Nat) : Bool := inRanges joinsLeftBounds n || inRanges joinsBothBounds n

/-- A character that joins with the one in front of it. -/
def joinsBackward (n : Nat) : Bool := inRanges joinsRightBounds n || inRanges joinsBothBounds n

/-- Change points of the Greek script. -/
def greekBounds : Array Nat := #[
  0x370, 0x374, 0x375, 0x378, 0x37A, 0x37E, 0x37F, 0x380, 0x384, 0x385, 0x386, 0x387, 0x388,
  0x38B, 0x38C, 0x38D, 0x38E, 0x3A2, 0x3A3, 0x3E2, 0x3F0, 0x400, 0x1D26, 0x1D2B, 0x1D5D, 0x1D62,
  0x1D66, 0x1D6B, 0x1DBF, 0x1DC0, 0x1F00, 0x1F16, 0x1F18, 0x1F1E, 0x1F20, 0x1F46, 0x1F48, 0x1F4E,
  0x1F50, 0x1F58, 0x1F59, 0x1F5A, 0x1F5B, 0x1F5C, 0x1F5D, 0x1F5E, 0x1F5F, 0x1F7E, 0x1F80, 0x1FB5,
  0x1FB6, 0x1FC5, 0x1FC6, 0x1FD4, 0x1FD6, 0x1FDC, 0x1FDD, 0x1FF0, 0x1FF2, 0x1FF5, 0x1FF6, 0x1FFF,
  0x2126, 0x2127, 0xAB65, 0xAB66, 0x10140, 0x1018F, 0x101A0, 0x101A1, 0x1D200, 0x1D246]

/-- Change points of the Hebrew script. -/
def hebrewBounds : Array Nat := #[
  0x591, 0x5C8, 0x5D0, 0x5EB, 0x5EF, 0x5F5, 0xFB1D, 0xFB37, 0xFB38, 0xFB3D, 0xFB3E, 0xFB3F,
  0xFB40, 0xFB42, 0xFB43, 0xFB45, 0xFB46, 0xFB50]

/-- Change points of the Hiragana script. -/
def hiraganaBounds : Array Nat := #[
  0x3041, 0x3097, 0x309D, 0x30A0, 0x1B001, 0x1B120, 0x1B150, 0x1B153, 0x1F200, 0x1F201]

/-- Change points of the Katakana script. -/
def katakanaBounds : Array Nat := #[
  0x30A1, 0x30FB, 0x30FD, 0x3100, 0x31F0, 0x3200, 0x32D0, 0x32FF, 0x3300, 0x3358, 0xFF66, 0xFF70,
  0xFF71, 0xFF9E, 0x1AFF0, 0x1AFF4, 0x1AFF5, 0x1AFFC, 0x1AFFD, 0x1AFFF, 0x1B000, 0x1B001, 0x1B120,
  0x1B123, 0x1B164, 0x1B168]

/-- Change points of the Han script. -/
def hanBounds : Array Nat := #[
  0x2E80, 0x2E9A, 0x2E9B, 0x2EF4, 0x2F00, 0x2FD6, 0x3005, 0x3006, 0x3007, 0x3008, 0x3021, 0x302A,
  0x3038, 0x303C, 0x3400, 0x4DC0, 0x4E00, 0xA000, 0xF900, 0xFA6E, 0xFA70, 0xFADA, 0x16FE2,
  0x16FE4, 0x16FF0, 0x16FF2, 0x20000, 0x2A6E0, 0x2A700, 0x2B739, 0x2B740, 0x2B81E, 0x2B820,
  0x2CEA2, 0x2CEB0, 0x2EBE1, 0x2F800, 0x2FA1E, 0x30000, 0x3134B]

/-- A character of one of the scripts that Japanese is written in. -/
def isJapanese (n : Nat) : Bool :=
  inRanges hiraganaBounds n || inRanges katakanaBounds n || inRanges hanBounds n

end PageScript.Url.Idna
