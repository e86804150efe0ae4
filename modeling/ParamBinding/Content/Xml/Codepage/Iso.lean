import ParamBinding.Content.Xml.Codepage.Basic

/-!
# Parts of ISO 8859

The encodings of ISO 8859 and two that are close to them. The bytes from `0x80` to `0x9F` are
control characters.
-/

namespace ParamBinding.Xml

/-- The parts of ISO 8859, Latin-1 and the Thai standard. -/
def isoEncodings : List Encoding := [
  ⟨"latin_1",
    ["8859", "cp819", "csisolatin1", "ibm819", "iso8859", "iso8859_1", "iso_8859_1",
     "iso_8859_1_1987", "iso_ir_100", "l1", "latin", "latin1"], .page 256 []⟩,
  ⟨"iso8859_1", [], .page 256 []⟩,
  ⟨"iso8859_2", ["csisolatin2", "iso_8859_2", "iso_8859_2_1987", "iso_ir_101", "l2", "latin2"],
    .page 160 [
      "\xa0Ą˘Ł¤ĽŚ§¨ŠŞŤŹ\xadŽŻ", "°ą˛ł´ľśˇ¸šşťź˝žż", "ŔÁÂĂÄĹĆÇČÉĘËĚÍÎĎ", "ĐŃŇÓÔŐÖ×ŘŮÚŰÜÝŢß",
      "ŕáâăäĺćçčéęëěíîď", "đńňóôőö÷řůúűüýţ˙"]⟩,
  ⟨"iso8859_3", ["csisolatin3", "iso_8859_3", "iso_8859_3_1988", "iso_ir_109", "l3", "latin3"],
    .page 160 [
      "\xa0Ħ˘£¤�Ĥ§¨İŞĞĴ\xad�Ż", "°ħ²³´µĥ·¸ışğĵ½�ż", "ÀÁÂ�ÄĊĈÇÈÉÊËÌÍÎÏ", "�ÑÒÓÔĠÖ×ĜÙÚÛÜŬŜß",
      "àáâ�äċĉçèéêëìíîï", "�ñòóôġö÷ĝùúûüŭŝ˙"]⟩,
  ⟨"iso8859_4", ["csisolatin4", "iso_8859_4", "iso_8859_4_1988", "iso_ir_110", "l4", "latin4"],
    .page 160 [
      "\xa0ĄĸŖ¤ĨĻ§¨ŠĒĢŦ\xadŽ¯", "°ą˛ŗ´ĩļˇ¸šēģŧŊžŋ", "ĀÁÂÃÄÅÆĮČÉĘËĖÍÎĪ", "ĐŅŌĶÔÕÖ×ØŲÚÛÜŨŪß",
      "āáâãäåæįčéęëėíîī", "đņōķôõö÷øųúûüũū˙"]⟩,
  ⟨"iso8859_5", ["csisolatincyrillic", "cyrillic", "iso_8859_5", "iso_8859_5_1988", "iso_ir_144"],
    .page 160 [
      "\xa0ЁЂЃЄЅІЇЈЉЊЋЌ\xadЎЏ", "АБВГДЕЖЗИЙКЛМНОП", "РСТУФХЦЧШЩЪЫЬЭЮЯ", "абвгдежзийклмноп",
      "рстуфхцчшщъыьэюя", "№ёђѓєѕіїјљњћќ§ўџ"]⟩,
  ⟨"iso8859_6",
    ["arabic", "asmo_708", "csisolatinarabic", "ecma_114", "iso_8859_6", "iso_8859_6_1987",
     "iso_ir_127"],
    .page 160 [
      "\xa0���¤�������،\xad��", "�����������؛���؟", "�ءآأؤإئابةتثجحخد", "ذرزسشصضطظعغ�����",
      "ـفقكلمنهوىي\u064b\u064c\u064d\u064e\u064f", "\u0650\u0651\u0652"]⟩,
  ⟨"iso8859_7",
    ["csisolatingreek", "ecma_118", "elot_928", "greek", "greek8", "iso_8859_7",
     "iso_8859_7_1987", "iso_ir_126"],
    .page 160 [
      "\xa0‘’£€₯¦§¨©ͺ«¬\xad�―", "°±²³΄΅Ά·ΈΉΊ»Ό½ΎΏ", "ΐΑΒΓΔΕΖΗΘΙΚΛΜΝΞΟ", "ΠΡ�ΣΤΥΦΧΨΩΪΫάέήί",
      "ΰαβγδεζηθικλμνξο", "πρςστυφχψωϊϋόύώ"]⟩,
  ⟨"iso8859_8", ["csisolatinhebrew", "hebrew", "iso_8859_8", "iso_8859_8_1988", "iso_ir_138"],
    .page 160 [
      "\xa0�¢£¤¥¦§¨©×«¬\xad®¯", "°±²³´µ¶·¸¹÷»¼½¾�", "����������������", "���������������‗",
      "אבגדהוזחטיךכלםמן", "נסעףפץצקרשת��\u200e\u200f"]⟩,
  ⟨"iso8859_9", ["csisolatin5", "iso_8859_9", "iso_8859_9_1989", "iso_ir_148", "l5", "latin5"],
    .page 160 [
      "\xa0¡¢£¤¥¦§¨©ª«¬\xad®¯", "°±²³´µ¶·¸¹º»¼½¾¿", "ÀÁÂÃÄÅÆÇÈÉÊËÌÍÎÏ", "ĞÑÒÓÔÕÖ×ØÙÚÛÜİŞß",
      "àáâãäåæçèéêëìíîï", "ğñòóôõö÷øùúûüışÿ"]⟩,
  ⟨"iso8859_10", ["csisolatin6", "iso_8859_10", "iso_8859_10_1992", "iso_ir_157", "l6", "latin6"],
    .page 160 [
      "\xa0ĄĒĢĪĨĶ§ĻĐŠŦŽ\xadŪŊ", "°ąēģīĩķ·ļđšŧž―ūŋ", "ĀÁÂÃÄÅÆĮČÉĘËĖÍÎÏ", "ÐŅŌÓÔÕÖŨØŲÚÛÜÝÞß",
      "āáâãäåæįčéęëėíîï", "ðņōóôõöũøųúûüýþĸ"]⟩,
  ⟨"iso8859_11", ["iso_8859_11", "iso_8859_11_2001", "thai"],
    .page 160 [
      "\xa0กขฃคฅฆงจฉชซฌญฎฏ", "ฐฑฒณดตถทธนบปผฝพฟ", "ภมยรฤลฦวศษสหฬอฮฯ",
      "ะ\u0e31าำ\u0e34\u0e35\u0e36\u0e37\u0e38\u0e39\u0e3a����฿",
      "เแโใไๅๆ\u0e47\u0e48\u0e49\u0e4a\u0e4b\u0e4c\u0e4d\u0e4e๏", "๐๑๒๓๔๕๖๗๘๙๚๛"]⟩,
  ⟨"iso8859_13", ["iso_8859_13", "l7", "latin7"],
    .page 160 [
      "\xa0”¢£¤„¦§Ø©Ŗ«¬\xad®Æ", "°±²³“µ¶·ø¹ŗ»¼½¾æ", "ĄĮĀĆÄÅĘĒČÉŹĖĢĶĪĻ", "ŠŃŅÓŌÕÖ×ŲŁŚŪÜŻŽß",
      "ąįāćäåęēčéźėģķīļ", "šńņóōõö÷ųłśūüżž’"]⟩,
  ⟨"iso8859_14", ["iso_8859_14", "iso_8859_14_1998", "iso_celtic", "iso_ir_199", "l8", "latin8"],
    .page 160 [
      "\xa0Ḃḃ£ĊċḊ§Ẁ©ẂḋỲ\xad®Ÿ", "ḞḟĠġṀṁ¶ṖẁṗẃṠỳẄẅṡ", "ÀÁÂÃÄÅÆÇÈÉÊËÌÍÎÏ", "ŴÑÒÓÔÕÖṪØÙÚÛÜÝŶß",
      "àáâãäåæçèéêëìíîï", "ŵñòóôõöṫøùúûüýŷÿ"]⟩,
  ⟨"iso8859_15", ["iso_8859_15", "l9", "latin9"],
    .page 160 [
      "\xa0¡¢£€¥Š§š©ª«¬\xad®¯", "°±²³Žµ¶·ž¹º»ŒœŸ¿", "ÀÁÂÃÄÅÆÇÈÉÊËÌÍÎÏ", "ÐÑÒÓÔÕÖ×ØÙÚÛÜÝÞß",
      "àáâãäåæçèéêëìíîï", "ðñòóôõö÷øùúûüýþÿ"]⟩,
  ⟨"iso8859_16", ["iso_8859_16", "iso_8859_16_2001", "iso_ir_226", "l10", "latin10"],
    .page 160 [
      "\xa0ĄąŁ€„Š§š©Ș«Ź\xadźŻ", "°±ČłŽ”¶·žčș»ŒœŸż", "ÀÁÂĂÄĆÆÇÈÉÊËÌÍÎÏ", "ĐŃÒÓÔŐÖŚŰÙÚÛÜĘȚß",
      "àáâăäćæçèéêëìíîï", "đńòóôőöśűùúûüęțÿ"]⟩,
  ⟨"tis_620", ["iso_ir_166", "tis620", "tis_620_0", "tis_620_2529_0", "tis_620_2529_1"],
    .page 160 [
      "�กขฃคฅฆงจฉชซฌญฎฏ", "ฐฑฒณดตถทธนบปผฝพฟ", "ภมยรฤลฦวศษสหฬอฮฯ",
      "ะ\u0e31าำ\u0e34\u0e35\u0e36\u0e37\u0e38\u0e39\u0e3a����฿",
      "เแโใไๅๆ\u0e47\u0e48\u0e49\u0e4a\u0e4b\u0e4c\u0e4d\u0e4e๏", "๐๑๒๓๔๕๖๗๘๙๚๛"]⟩]

end ParamBinding.Xml
