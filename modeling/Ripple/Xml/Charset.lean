/-! Encodings with a byte for each character.

A document can name an encoding that the reader itself does not know. Of such an encoding only the
table of its single bytes is used (`Charset`). Which there are is up to the machine, so the reader
is given them (`Charsets`); `Charset.common` knows some that are in common use. -/
namespace Ripple.Xml

/-- A character that no document may hold, in the place of bytes that stand for none. -/
def illegal : Char := '\uffff'

inductive Charset where
  /-- The bytes of ASCII stand for its characters, and those from 128 on for those in the list. -/
  | single (above : List Char)
  /-- Some characters take several bytes. -/
  | multiple
  /-- The bytes of ASCII stand for something else. -/
  | foreign
  deriving DecidableEq, Repr

/-- The encodings that the machine knows, by their names as a document gives them. -/
abbrev Charsets := String → Option Charset

namespace Charset

/-- The characters of the bytes from 128 on. -/
def upperHalf (s : String) : List Char := s.toList

/-- The characters of the bytes from 160 on; those before them are controls. -/
def rightHalf (s : String) : List Char :=
  (List.range 32).map (fun n => .ofNat (0x80 + n)) ++ s.toList

/-- No byte but those of ASCII stands for a character by itself. -/
def asciiNames : List String :=
  ["ascii", "646", "ansi_x3.4_1968", "ansi_x3.4_1986", "ansi_x3_4_1968", "cp367", "csascii",
   "ibm367", "iso646_us", "iso_646.irv_1991", "iso_ir_6", "us", "us_ascii", "utf_8", "cp65001",
   "u8", "utf", "utf8", "utf8_ucs2", "utf8_ucs4", "utf_8_sig"]

/-- Each byte stands for the character with its number. -/
def latinNames : List String :=
  ["latin_1", "8859", "cp819", "csisolatin1", "ibm819", "iso8859", "iso8859_1", "iso_8859_1",
   "iso_8859_1_1987", "iso_ir_100", "l1", "latin", "latin1"]

def multipleNames : List String :=
  ["big5", "big5_tw", "csbig5", "x_mac_trad_chinese", "euc_jp", "eucjp", "u_jis", "ujis", "euc_kr",
   "euckr", "korean", "ks_c_5601", "ks_c_5601_1987", "ks_x_1001", "ksc5601", "ksx1001",
   "x_mac_korean", "gb18030", "gb18030_2000", "gb2312", "chinese", "csiso58gb231280", "euc_cn",
   "euccn", "eucgb2312_cn", "gb2312_1980", "gb2312_80", "iso_ir_58", "x_mac_simp_chinese", "gbk",
   "936", "cp936", "ms936", "shift_jis", "csshiftjis", "s_jis", "shiftjis", "sjis",
   "x_mac_japanese", "utf_16", "u16", "utf16", "utf_16_be", "unicodebigunmarked", "utf_16be",
   "utf_16_le", "unicodelittleunmarked", "utf_16le", "utf_32", "u32", "utf32", "utf_7", "u7",
   "unicode_1_1_utf_7", "utf7"]

def foreignNames : List String :=
  ["cp037", "037", "csibm037", "ebcdic_cp_ca", "ebcdic_cp_nl", "ebcdic_cp_us", "ebcdic_cp_wt",
   "ibm037", "ibm039", "cp1140", "1140", "ibm1140", "cp500", "500", "csibm500", "ebcdic_cp_be",
   "ebcdic_cp_ch", "ibm500"]

/-- The encodings that extend ASCII, each with its names. -/
def tables : List (List String × List Char) :=
  [(["iso8859_2", "csisolatin2", "iso_8859_2", "iso_8859_2_1987", "iso_ir_101", "l2", "latin2"],
    rightHalf
      ("\u00a0Ą\u02d8Ł¤ĽŚ§\u00a8ŠŞŤŹ\u00adŽŻ°ą\u02dbł\u00b4ľś\u02c7\u00b8šşťź\u02ddžżŔÁÂĂÄĹĆ" ++
        "ÇČÉĘËĚÍÎĎĐŃŇÓÔŐÖ×ŘŮÚŰÜÝŢßŕáâăäĺćçčéęëěíîďđńňóôőö÷řůúűüýţ\u02d9")),
   (["iso8859_5", "csisolatincyrillic", "cyrillic", "iso_8859_5", "iso_8859_5_1988", "iso_ir_144"],
    rightHalf
      ("\u00a0ЁЂЃЄЅІЇЈЉЊЋЌ\u00adЎЏАБВГДЕЖЗИЙКЛМНОПРСТУФХЦЧШЩЪЫЬЭЮЯабвгдежзийклмнопрстуфхцчшщ" ++
        "ъыьэюя№ёђѓєѕіїјљњћќ§ўџ")),
   (["iso8859_7", "csisolatingreek", "ecma_118", "elot_928", "greek", "greek8", "iso_8859_7",
     "iso_8859_7_1987", "iso_ir_126"],
    rightHalf
      ("\u00a0‘’£€₯¦§\u00a8©\u037a«¬\u00ad\uffff―°±²³\u0384\u0385Ά·ΈΉΊ»Ό½ΎΏΐΑΒΓΔΕΖΗΘΙΚΛΜΝΞΟΠ" ++
        "Ρ\uffffΣΤΥΦΧΨΩΪΫάέήίΰαβγδεζηθικλμνξοπρςστυφχψωϊϋόύώ\uffff")),
   (["iso8859_9", "csisolatin5", "iso_8859_9", "iso_8859_9_1989", "iso_ir_148", "l5", "latin5"],
    rightHalf
      ("\u00a0¡¢£¤¥¦§\u00a8©ª«¬\u00ad®\u00af°±²³\u00b4µ¶·\u00b8¹º»¼½¾¿ÀÁÂÃÄÅÆÇÈÉÊËÌÍÎÏĞÑÒÓÔÕ" ++
        "Ö×ØÙÚÛÜİŞßàáâãäåæçèéêëìíîïğñòóôõö÷øùúûüışÿ")),
   (["iso8859_15", "iso_8859_15", "l9", "latin9"],
    rightHalf
      ("\u00a0¡¢£€¥Š§š©ª«¬\u00ad®\u00af°±²³Žµ¶·ž¹º»ŒœŸ¿ÀÁÂÃÄÅÆÇÈÉÊËÌÍÎÏÐÑÒÓÔÕÖ×ØÙÚÛÜÝÞßàáâãä" ++
        "åæçèéêëìíîïðñòóôõö÷øùúûüýþÿ")),
   (["cp1250", "1250", "windows_1250"],
    upperHalf
      ("€\uffff‚\uffff„…†‡\uffff‰Š‹ŚŤŽŹ\uffff‘’“”•–—\uffff™š›śťžź\u00a0\u02c7\u02d8Ł¤Ą¦§" ++
        "\u00a8©Ş«¬\u00ad®Ż°±\u02dbł\u00b4µ¶·\u00b8ąş»Ľ\u02ddľżŔÁÂĂÄĹĆÇČÉĘËĚÍÎĎĐŃŇÓÔŐÖ×ŘŮÚŰÜÝ" ++
        "Ţßŕáâăäĺćçčéęëěíîďđńňóôőö÷řůúűüýţ\u02d9")),
   (["cp1251", "1251", "windows_1251"],
    upperHalf
      ("ЂЃ‚ѓ„…†‡€‰Љ‹ЊЌЋЏђ‘’“”•–—\uffff™љ›њќћџ\u00a0ЎўЈ¤Ґ¦§Ё©Є«¬\u00ad®Ї°±Ііґµ¶·ё№є»јЅѕїАБВГД" ++
        "ЕЖЗИЙКЛМНОПРСТУФХЦЧШЩЪЫЬЭЮЯабвгдежзийклмнопрстуфхцчшщъыьэюя")),
   (["cp1252", "1252", "windows_1252"],
    upperHalf
      ("€\uffff‚ƒ„…†‡\u02c6‰Š‹Œ\uffffŽ\uffff\uffff‘’“”•–—\u02dc™š›œ\uffffžŸ\u00a0¡¢£¤¥¦§" ++
        "\u00a8©ª«¬\u00ad®\u00af°±²³\u00b4µ¶·\u00b8¹º»¼½¾¿ÀÁÂÃÄÅÆÇÈÉÊËÌÍÎÏÐÑÒÓÔÕÖ×ØÙÚÛÜÝÞßàáâ" ++
        "ãäåæçèéêëìíîïðñòóôõö÷øùúûüýþÿ")),
   (["koi8_r", "cskoi8r"],
    upperHalf
      ("─│┌┐└┘├┤┬┴┼▀▄█▌▐░▒▓⌠■∙√≈≤≥\u00a0⌡°²·÷═║╒ё╓╔╕╖╗╘╙╚╛╜╝╞╟╠╡Ё╢╣╤╥╦╧╨╩╪╫╬©юабцдефгхийклмн" ++
        "опярстужвьызшэщчъЮАБЦДЕФГХИЙКЛМНОПЯРСТУЖВЬЫЗШЭЩЧЪ")),
   (["koi8_u"],
    upperHalf
      ("─│┌┐└┘├┤┬┴┼▀▄█▌▐░▒▓⌠■∙√≈≤≥\u00a0⌡°²·÷═║╒ёє╔ії╗╘╙╚╛ґ╝╞╟╠╡ЁЄ╣ІЇ╦╧╨╩╪Ґ╬©юабцдефгхийклмн" ++
        "опярстужвьызшэщчъЮАБЦДЕФГХИЙКЛМНОПЯРСТУЖВЬЫЗШЭЩЧЪ"))]

/-- A name in small letters, with one line between its words. -/
def plainName (name : String) : String :=
  let isWord := fun c : Char => c.isAlphanum || c == '.'
  let words := (name.toList.map fun c => if isWord c then c.toLower else ' ').splitOnP (· == ' ')
  "_".intercalate ((words.filter (· != [])).map .ofList)

def named? (name : String) : Option Charset :=
  if asciiNames.contains name then some (.single [])
  else if latinNames.contains name then
    some (.single ((List.range 128).map fun n => .ofNat (0x80 + n)))
  else if multipleNames.contains name then some .multiple
  else if foreignNames.contains name then some .foreign
  else (tables.find? fun t => t.1.contains name).map fun t => .single t.2

def common : Charsets := fun name =>
  let name := plainName name
  (named? name).or (named? (name.map fun c => if c = '.' then '_' else c))

end Charset

end Ripple.Xml
