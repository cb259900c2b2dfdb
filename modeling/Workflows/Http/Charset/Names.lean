/-
The names of character sets. Case does not matter in a name, and neither does which marks stand
between its words.
-/
import Workflows.Http.Charset.Basic
import Workflows.Http.Charset.CodePages
import Workflows.Http.Charset.CodePagesFromOne
import Workflows.Http.Charset.DesktopScripts
import Workflows.Http.Charset.OtherSets
import Workflows.Http.Charset.Series8859

namespace Workflows.Charset

/-- A part of the table of `singles`. -/
def singlesA : List (List String × List Nat) := [
  (["cp1026", "1026", "csibm1026", "ibm1026"], cp1026),
  (["cp1125", "1125", "cp866u", "ibm1125", "ruscii"], asciiHalf ++ cp1125),
  (["cp1140", "1140", "ibm1140"], cp1140),
  (["cp1250", "1250", "windows_1250"], asciiHalf ++ cp1250),
  (["cp1251", "1251", "windows_1251"], asciiHalf ++ cp1251),
  (["cp1252", "1252", "windows_1252"], asciiHalf ++ cp1252),
  (["cp1253", "1253", "windows_1253"], asciiHalf ++ cp1253),
  (["cp1254", "1254", "windows_1254"], asciiHalf ++ cp1254),
  (["cp1255", "1255", "windows_1255"], asciiHalf ++ cp1255),
  (["cp1256", "1256", "windows_1256"], asciiHalf ++ cp1256),
  (["cp1257", "1257", "windows_1257"], asciiHalf ++ cp1257),
  (["cp1258", "1258", "windows_1258"], asciiHalf ++ cp1258),
  (["iso8859_6", "arabic", "asmo_708", "csisolatinarabic", "ecma_114", "iso_8859_6",
    "iso_8859_6_1987", "iso_ir_127"], asciiHalf ++ iso8859x6),
  (["iso8859_2", "csisolatin2", "iso_8859_2", "iso_8859_2_1987", "iso_ir_101", "l2",
    "latin2"], asciiHalf ++ iso8859x2),
  (["iso8859_3", "csisolatin3", "iso_8859_3", "iso_8859_3_1988", "iso_ir_109", "l3",
    "latin3"], asciiHalf ++ iso8859x3),
  (["iso8859_4", "csisolatin4", "iso_8859_4", "iso_8859_4_1988", "iso_ir_110", "l4",
    "latin4"], asciiHalf ++ iso8859x4),
  (["iso8859_9", "csisolatin5", "iso_8859_9", "iso_8859_9_1989", "iso_ir_148", "l5",
    "latin5"], asciiHalf ++ iso8859x9),
  (["iso8859_10", "csisolatin6", "iso_8859_10", "iso_8859_10_1992", "iso_ir_157", "l6",
    "latin6"], asciiHalf ++ iso8859x10),
  (["iso8859_5", "csisolatincyrillic", "cyrillic", "iso_8859_5", "iso_8859_5_1988",
    "iso_ir_144"], asciiHalf ++ iso8859x5),
  (["iso8859_7", "csisolatingreek", "ecma_118", "elot_928", "greek", "greek8", "iso_8859_7",
    "iso_8859_7_1987", "iso_ir_126"], asciiHalf ++ iso8859x7),
  (["iso8859_8", "csisolatinhebrew", "hebrew", "iso_8859_8", "iso_8859_8_1988",
    "iso_ir_138"], asciiHalf ++ iso8859x8),
  (["iso8859_11", "iso_8859_11", "iso_8859_11_2001", "thai"], asciiHalf ++ iso8859x11),
  (["iso8859_13", "iso_8859_13", "l7", "latin7"], asciiHalf ++ iso8859x13),
  (["iso8859_14", "iso_8859_14", "iso_8859_14_1998", "iso_celtic", "iso_ir_199", "l8",
    "latin8"], asciiHalf ++ iso8859x14)]

/-- A part of the table of `singles`. -/
def singlesB : List (List String × List Nat) := [
  (["iso8859_15", "iso_8859_15", "l9", "latin9"], asciiHalf ++ iso8859x15),
  (["iso8859_16", "iso_8859_16", "iso_8859_16_2001", "iso_ir_226", "l10",
    "latin10"], asciiHalf ++ iso8859x16),
  (["cp037", "037", "csibm037", "ebcdic_cp_ca", "ebcdic_cp_nl", "ebcdic_cp_us", "ebcdic_cp_wt",
    "ibm037", "ibm039"], cp037),
  (["cp273", "273", "csibm273", "ibm273"], cp273),
  (["cp424", "424", "csibm424", "ebcdic_cp_he", "ibm424"], cp424),
  (["cp437", "437", "cspc8codepage437", "ibm437"], asciiHalf ++ cp437),
  (["cp500", "500", "csibm500", "ebcdic_cp_be", "ebcdic_cp_ch", "ibm500"], cp500),
  (["cp775", "775", "cspc775baltic", "ibm775"], asciiHalf ++ cp775),
  (["cp850", "850", "cspc850multilingual", "ibm850"], asciiHalf ++ cp850),
  (["cp852", "852", "cspcp852", "ibm852"], asciiHalf ++ cp852),
  (["cp855", "855", "csibm855", "ibm855"], asciiHalf ++ cp855),
  (["cp857", "857", "csibm857", "ibm857"], asciiHalf ++ cp857),
  (["cp858", "858", "csibm858", "ibm858"], asciiHalf ++ cp858),
  (["cp860", "860", "csibm860", "ibm860"], asciiHalf ++ cp860),
  (["cp861", "861", "cp_is", "csibm861", "ibm861"], asciiHalf ++ cp861),
  (["cp862", "862", "cspc862latinhebrew", "ibm862"], asciiHalf ++ cp862),
  (["cp863", "863", "csibm863", "ibm863"], asciiHalf ++ cp863),
  (["cp864", "864", "csibm864", "ibm864"], cp864),
  (["cp865", "865", "csibm865", "ibm865"], asciiHalf ++ cp865),
  (["cp866", "866", "csibm866", "ibm866"], asciiHalf ++ cp866),
  (["cp869", "869", "cp_gr", "csibm869", "ibm869"], asciiHalf ++ cp869),
  (["cp720"], asciiHalf ++ cp720),
  (["cp737"], asciiHalf ++ cp737),
  (["cp856"], asciiHalf ++ cp856)]

/-- A part of the table of `singles`. -/
def singlesC : List (List String × List Nat) := [
  (["cp874"], asciiHalf ++ cp874),
  (["cp875"], cp875),
  (["mac_arabic"], asciiHalf ++ macArabic),
  (["mac_latin2", "mac_centeuro", "maccentraleurope", "maclatin2"], asciiHalf ++ macLatin2),
  (["mac_croatian"], asciiHalf ++ macCroatian),
  (["mac_cyrillic", "maccyrillic"], asciiHalf ++ macCyrillic),
  (["mac_farsi"], asciiHalf ++ macFarsi),
  (["mac_greek", "macgreek"], asciiHalf ++ macGreek),
  (["mac_iceland", "maciceland"], asciiHalf ++ macIceland),
  (["mac_roman", "macintosh", "macroman"], asciiHalf ++ macRoman),
  (["mac_romanian"], asciiHalf ++ macRomanian),
  (["mac_turkish", "macturkish"], asciiHalf ++ macTurkish),
  (["cp1006"], asciiHalf ++ cp1006),
  (["hp_roman8", "cp1051", "ibm1051", "r8", "roman8"], asciiHalf ++ hpRoman8),
  (["ptcp154", "cp154", "csptcp154", "cyrillic_asian", "pt154"], asciiHalf ++ ptcp154),
  (["koi8_r", "cskoi8r"], asciiHalf ++ koi8R),
  (["tis_620", "iso_ir_166", "tis620", "tis_620_0", "tis_620_2529_0",
    "tis_620_2529_1"], asciiHalf ++ tisx620),
  (["koi8_t"], asciiHalf ++ koi8T),
  (["koi8_u"], asciiHalf ++ koi8U),
  (["kz1048", "kz_1048", "rk1048", "strk1048_2002"], asciiHalf ++ kz1048),
  (["palmos"], asciiHalf ++ palmos)]

/-- The names of the sets with a character for every octet, and their code points. -/
def singles : List (List String × List Nat) := singlesA ++ singlesB ++ singlesC

/-- The names of the other sets. -/
def others : List (List String × Charset) := [
  (["utf_8", "cp65001", "u8", "utf", "utf8", "utf8_ucs2", "utf8_ucs4"], utf8),
  (["utf_8_sig"], markedUtf8),
  (["utf_16", "u16", "utf16"], utf16 none),
  (["utf_16_le", "unicodelittleunmarked", "utf_16le"], utf16 (some false)),
  (["utf_16_be", "unicodebigunmarked", "utf_16be"], utf16 (some true)),
  (["utf_32", "u32", "utf32"], utf32 none),
  (["utf_32_le", "utf_32le"], utf32 (some false)),
  (["utf_32_be", "utf_32be"], utf32 (some true)),
  (["latin_1", "8859", "cp819", "csisolatin1", "ibm819", "iso8859", "iso8859_1", "iso_8859_1",
    "iso_8859_1_1987", "iso_ir_100", "l1", "latin", "latin1"], latin1),
  (["charmap"], latin1),
  (["ascii", "646", "ansi_x3.4_1968", "ansi_x3.4_1986", "ansi_x3_4_1968", "cp367", "csascii",
    "ibm367", "iso646_us", "iso_646.irv_1991", "iso_ir_6", "us", "us_ascii"], ascii)]

/-- All character sets with their names, the proper name first. -/
def all : List (List String × Charset) :=
  others ++ singles.map fun (names, codes) => (names, single codes)

/-- A name in which every stretch of marks other than points is one low line; `gap` says that such a
stretch comes before the rest. -/
def plainName (gap : Bool) : List Char → List Char
  | [] => []
  | c :: rest =>
    if c.isAlphanum || c = '.' then
      if gap then '_' :: c.toLower :: plainName false rest
      else c.toLower :: plainName false rest
    else plainName true rest

/-- The character set of a name. In a name other than a proper one points may be marks as well. -/
def ofName? (name : String) : Option Charset :=
  let plain := plainName false (name.toList.dropWhile fun c => !(c.isAlphanum || c = '.'))
  let known := String.ofList plain
  let pointless := String.ofList (plain.map fun c => if c = '.' then '_' else c)
  (all.find? fun (names, _) =>
    names.contains known || (names.drop 1).contains pointless).map (·.2)

end Workflows.Charset
