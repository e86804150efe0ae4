import ParamBinding.Content.Xml.Codepage.Basic

/-!
# Other encodings

Encodings of ASCII and of Cyrillic and other scripts, and those that documents cannot use.
-/

namespace ParamBinding.Xml

/-- Encodings with one byte for each character. In those that use several bytes for characters
beyond ASCII, bytes beyond ASCII alone mean nothing. -/
def otherEncodings : List Encoding := [
  ⟨"ascii",
    ["646", "ansi_x3.4_1968", "ansi_x3.4_1986", "ansi_x3_4_1968", "cp367", "csascii", "ibm367",
     "iso646_us", "iso_646.irv_1991", "iso_ir_6", "us", "us_ascii"], .page 128 []⟩,
  ⟨"charmap", [], .page 256 []⟩,
  ⟨"hp_roman8", ["cp1051", "ibm1051", "r8", "roman8"],
    .page 160 [
      "\xa0ÀÂÈÊËÎÏ´ˋˆ¨˜ÙÛ₤", "¯Ýý°ÇçÑñ¡¿¤£¥§ƒ¢", "âêôûáéóúàèòùäëöü", "ÅîØÆåíøæÄìÖÜÉïßÔ",
      "ÁÃãÐðÍÌÓÒÕõŠšÚŸÿ", "Þþ·µ¶¾—¼½ªº«■»±"]⟩,
  ⟨"hz", ["hz_gb", "hz_gb_2312", "hzgb"],
    .page 126 [
      "�\x7f"]⟩,
  ⟨"iso2022_jp", ["csiso2022jp", "iso2022jp", "iso_2022_jp"], .page 128 []⟩,
  ⟨"iso2022_jp_1", ["iso2022jp_1", "iso_2022_jp_1"], .page 128 []⟩,
  ⟨"iso2022_jp_2", ["iso2022jp_2", "iso_2022_jp_2"], .page 128 []⟩,
  ⟨"iso2022_jp_2004", ["iso2022jp_2004", "iso_2022_jp_2004"], .page 128 []⟩,
  ⟨"iso2022_jp_3", ["iso2022jp_3", "iso_2022_jp_3"], .page 128 []⟩,
  ⟨"iso2022_jp_ext", ["iso2022jp_ext", "iso_2022_jp_ext"], .page 128 []⟩,
  ⟨"koi8_r", ["cskoi8r"],
    .page 128 [
      "─│┌┐└┘├┤┬┴┼▀▄█▌▐", "░▒▓⌠■∙√≈≤≥\xa0⌡°²·÷", "═║╒ё╓╔╕╖╗╘╙╚╛╜╝╞", "╟╠╡Ё╢╣╤╥╦╧╨╩╪╫╬©",
      "юабцдефгхийклмно", "пярстужвьызшэщчъ", "ЮАБЦДЕФГХИЙКЛМНО", "ПЯРСТУЖВЬЫЗШЭЩЧЪ"]⟩,
  ⟨"koi8_t", [],
    .page 128 [
      "қғ‚Ғ„…†‡�‰ҳ‹ҲҷҶ�", "Қ‘’“”•–—�™�›����", "�ӯӮё¤ӣ¦§���«¬\xad®�", "°±²Ё�Ӣ¶·�№�»���©",
      "юабцдефгхийклмно", "пярстужвьызшэщчъ", "ЮАБЦДЕФГХИЙКЛМНО", "ПЯРСТУЖВЬЫЗШЭЩЧЪ"]⟩,
  ⟨"koi8_u", [],
    .page 128 [
      "─│┌┐└┘├┤┬┴┼▀▄█▌▐", "░▒▓⌠■∙√≈≤≥\xa0⌡°²·÷", "═║╒ёє╔ії╗╘╙╚╛ґ╝╞", "╟╠╡ЁЄ╣ІЇ╦╧╨╩╪Ґ╬©",
      "юабцдефгхийклмно", "пярстужвьызшэщчъ", "ЮАБЦДЕФГХИЙКЛМНО", "ПЯРСТУЖВЬЫЗШЭЩЧЪ"]⟩,
  ⟨"kz1048", ["kz_1048", "rk1048", "strk1048_2002"],
    .page 128 [
      "ЂЃ‚ѓ„…†‡€‰Љ‹ЊҚҺЏ", "ђ‘’“”•–—�™љ›њқһџ", "\xa0ҰұӘ¤Ө¦§Ё©Ғ«¬\xad®Ү", "°±Ііөµ¶·ё№ғ»әҢңү",
      "АБВГДЕЖЗИЙКЛМНОП", "РСТУФХЦЧШЩЪЫЬЭЮЯ", "абвгдежзийклмноп", "рстуфхцчшщъыьэюя"]⟩,
  ⟨"palmos", [],
    .page 128 [
      "€\x81‚ƒ„…†‡ˆ‰Š‹Œ♦♣♥", "♠‘’“”•–—˜™š\x9bœ\x9d\x9eŸ", "\xa0¡¢£¤¥¦§¨©ª«¬\xad®¯",
      "°±²³´µ¶·¸¹º»¼½¾¿", "ÀÁÂÃÄÅÆÇÈÉÊËÌÍÎÏ", "ÐÑÒÓÔÕÖ×ØÙÚÛÜÝÞß", "àáâãäåæçèéêëìíîï",
      "ðñòóôõö÷øùúûüýþÿ"]⟩,
  ⟨"ptcp154", ["cp154", "csptcp154", "cyrillic_asian", "pt154"],
    .page 128 [
      "ҖҒӮғ„…ҶҮҲүҠӢҢҚҺҸ", "җ‘’“”•–—ҳҷҡӣңқһҹ", "\xa0ЎўЈӨҘҰ§Ё©Ә«¬ӯ®Ҝ", "°ұІіҙө¶·ё№ә»јҪҫҝ",
      "АБВГДЕЖЗИЙКЛМНОП", "РСТУФХЦЧШЩЪЫЬЭЮЯ", "абвгдежзийклмноп", "рстуфхцчшщъыьэюя"]⟩,
  ⟨"raw_unicode_escape", [], .page 256 []⟩,
  ⟨"unicode_escape", [], .page 256 []⟩,
  ⟨"utf_8", ["cp65001", "u8", "utf", "utf8", "utf8_ucs2", "utf8_ucs4"], .page 128 []⟩,
  ⟨"utf_8_sig", [], .page 128 []⟩]

/-- Encodings with several bytes for some characters. -/
def wideEncodings : List Encoding := [
  ⟨"big5", ["big5_tw", "csbig5", "x_mac_trad_chinese"], .wide⟩,
  ⟨"big5hkscs", ["big5_hkscs", "hkscs"], .wide⟩,
  ⟨"cp932", ["932", "ms932", "ms_kanji", "mskanji"], .wide⟩,
  ⟨"cp949", ["949", "ms949", "uhc"], .wide⟩,
  ⟨"cp950", ["950", "ms950"], .wide⟩,
  ⟨"euc_jis_2004", ["euc_jis2004", "eucjis2004", "jisx0213"], .wide⟩,
  ⟨"euc_jisx0213", ["eucjisx0213"], .wide⟩,
  ⟨"euc_jp", ["eucjp", "u_jis", "ujis"], .wide⟩,
  ⟨"euc_kr",
    ["euckr", "korean", "ks_c_5601", "ks_c_5601_1987", "ks_x_1001", "ksc5601", "ksx1001",
     "x_mac_korean"], .wide⟩,
  ⟨"gb18030", ["gb18030_2000"], .wide⟩,
  ⟨"gb2312",
    ["chinese", "csiso58gb231280", "euc_cn", "euccn", "eucgb2312_cn", "gb2312_1980", "gb2312_80",
     "iso_ir_58", "x_mac_simp_chinese"], .wide⟩,
  ⟨"gbk", ["936", "cp936", "ms936"], .wide⟩,
  ⟨"iso2022_kr", ["csiso2022kr", "iso2022kr", "iso_2022_kr"], .wide⟩,
  ⟨"johab", ["cp1361", "ms1361"], .wide⟩,
  ⟨"shift_jis", ["csshiftjis", "s_jis", "shiftjis", "sjis", "x_mac_japanese"], .wide⟩,
  ⟨"shift_jis_2004", ["s_jis_2004", "shiftjis2004", "sjis_2004"], .wide⟩,
  ⟨"shift_jisx0213", ["s_jisx0213", "shiftjisx0213", "sjisx0213"], .wide⟩,
  ⟨"utf_16", ["u16", "utf16"], .wide⟩,
  ⟨"utf_16_be", ["unicodebigunmarked", "utf_16be"], .wide⟩,
  ⟨"utf_16_le", ["unicodelittleunmarked", "utf_16le"], .wide⟩,
  ⟨"utf_32", ["u32", "utf32"], .wide⟩,
  ⟨"utf_32_be", ["utf_32be"], .wide⟩,
  ⟨"utf_32_le", ["utf_32le"], .wide⟩,
  ⟨"utf_7", ["u7", "unicode_1_1_utf_7", "utf7"], .wide⟩]

/-- Encodings in which the bytes of markup mean other characters. -/
def foreignEncodings : List Encoding := [
  ⟨"cp037",
    ["037", "csibm037", "ebcdic_cp_ca", "ebcdic_cp_nl", "ebcdic_cp_us", "ebcdic_cp_wt", "ibm037",
     "ibm039"], .foreign⟩,
  ⟨"cp1026", ["1026", "csibm1026", "ibm1026"], .foreign⟩,
  ⟨"cp1140", ["1140", "ibm1140"], .foreign⟩,
  ⟨"cp273", ["273", "csibm273", "ibm273"], .foreign⟩,
  ⟨"cp424", ["424", "csibm424", "ebcdic_cp_he", "ibm424"], .foreign⟩,
  ⟨"cp500", ["500", "csibm500", "ebcdic_cp_be", "ebcdic_cp_ch", "ibm500"], .foreign⟩,
  ⟨"cp864", ["864", "csibm864", "ibm864"], .foreign⟩,
  ⟨"cp875", [], .foreign⟩,
  ⟨"mac_arabic", [], .foreign⟩,
  ⟨"mac_farsi", [], .foreign⟩]

/-- Encodings that are no encodings of texts, or that fail on some bytes. -/
def failingEncodings : List Encoding := [
  ⟨"base64_codec", ["base64", "base_64"], .notText⟩,
  ⟨"bz2_codec", ["bz2"], .notText⟩,
  ⟨"hex_codec", ["hex"], .notText⟩,
  ⟨"quopri_codec", ["quopri", "quoted_printable", "quotedprintable"], .notText⟩,
  ⟨"rot_13", ["rot13"], .notText⟩,
  ⟨"uu_codec", ["uu"], .notText⟩,
  ⟨"zlib_codec", ["zip", "zlib"], .notText⟩,
  ⟨"idna", [], .strict⟩,
  ⟨"punycode", [], .asciiOnly⟩,
  ⟨"undefined", [], .undefined⟩]

end ParamBinding.Xml
