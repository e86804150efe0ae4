import ParamBinding.Content.Xml.Codepage.Basic

/-!
# Encodings of Windows

Extensions of the parts of ISO 8859, most of them with letters and marks in place of the control
characters from `0x80` to `0x9F`.
-/

namespace ParamBinding.Xml

/-- The encodings of Windows. -/
def windowsEncodings : List Encoding := [
  ⟨"cp1250", ["1250", "windows_1250"],
    .page 128 [
      "€�‚�„…†‡�‰Š‹ŚŤŽŹ", "�‘’“”•–—�™š›śťžź", "\xa0ˇ˘Ł¤Ą¦§¨©Ş«¬\xad®Ż", "°±˛ł´µ¶·¸ąş»Ľ˝ľż",
      "ŔÁÂĂÄĹĆÇČÉĘËĚÍÎĎ", "ĐŃŇÓÔŐÖ×ŘŮÚŰÜÝŢß", "ŕáâăäĺćçčéęëěíîď", "đńňóôőö÷řůúűüýţ˙"]⟩,
  ⟨"cp1251", ["1251", "windows_1251"],
    .page 128 [
      "ЂЃ‚ѓ„…†‡€‰Љ‹ЊЌЋЏ", "ђ‘’“”•–—�™љ›њќћџ", "\xa0ЎўЈ¤Ґ¦§Ё©Є«¬\xad®Ї", "°±Ііґµ¶·ё№є»јЅѕї",
      "АБВГДЕЖЗИЙКЛМНОП", "РСТУФХЦЧШЩЪЫЬЭЮЯ", "абвгдежзийклмноп", "рстуфхцчшщъыьэюя"]⟩,
  ⟨"cp1252", ["1252", "windows_1252"],
    .page 128 [
      "€�‚ƒ„…†‡ˆ‰Š‹Œ�Ž�", "�‘’“”•–—˜™š›œ�žŸ", "\xa0¡¢£¤¥¦§¨©ª«¬\xad®¯", "°±²³´µ¶·¸¹º»¼½¾¿",
      "ÀÁÂÃÄÅÆÇÈÉÊËÌÍÎÏ", "ÐÑÒÓÔÕÖ×ØÙÚÛÜÝÞß", "àáâãäåæçèéêëìíîï", "ðñòóôõö÷øùúûüýþÿ"]⟩,
  ⟨"cp1253", ["1253", "windows_1253"],
    .page 128 [
      "€�‚ƒ„…†‡�‰�‹����", "�‘’“”•–—�™�›����", "\xa0΅Ά£¤¥¦§¨©�«¬\xad®―", "°±²³΄µ¶·ΈΉΊ»Ό½ΎΏ",
      "ΐΑΒΓΔΕΖΗΘΙΚΛΜΝΞΟ", "ΠΡ�ΣΤΥΦΧΨΩΪΫάέήί", "ΰαβγδεζηθικλμνξο", "πρςστυφχψωϊϋόύώ"]⟩,
  ⟨"cp1254", ["1254", "windows_1254"],
    .page 128 [
      "€�‚ƒ„…†‡ˆ‰Š‹Œ���", "�‘’“”•–—˜™š›œ��Ÿ", "\xa0¡¢£¤¥¦§¨©ª«¬\xad®¯", "°±²³´µ¶·¸¹º»¼½¾¿",
      "ÀÁÂÃÄÅÆÇÈÉÊËÌÍÎÏ", "ĞÑÒÓÔÕÖ×ØÙÚÛÜİŞß", "àáâãäåæçèéêëìíîï", "ğñòóôõö÷øùúûüışÿ"]⟩,
  ⟨"cp1255", ["1255", "windows_1255"],
    .page 128 [
      "€�‚ƒ„…†‡ˆ‰�‹����", "�‘’“”•–—˜™�›����", "\xa0¡¢£₪¥¦§¨©×«¬\xad®¯", "°±²³´µ¶·¸¹÷»¼½¾¿",
      "\u05b0\u05b1\u05b2\u05b3\u05b4\u05b5\u05b6\u05b7\u05b8\u05b9�\u05bb\u05bc\u05bd־\u05bf",
      "׀\u05c1\u05c2׃װױײ׳״�������", "אבגדהוזחטיךכלםמן", "נסעףפץצקרשת��\u200e\u200f"]⟩,
  ⟨"cp1256", ["1256", "windows_1256"],
    .page 128 [
      "€پ‚ƒ„…†‡ˆ‰ٹ‹Œچژڈ", "گ‘’“”•–—ک™ڑ›œ\u200c\u200dں", "\xa0،¢£¤¥¦§¨©ھ«¬\xad®¯",
      "°±²³´µ¶·¸¹؛»¼½¾؟", "ہءآأؤإئابةتثجحخد", "ذرزسشصض×طظعغـفقك", "àلâمنهوçèéêëىيîï",
      "\u064b\u064c\u064d\u064eô\u064f\u0650÷\u0651ù\u0652ûü\u200e\u200fے"]⟩,
  ⟨"cp1257", ["1257", "windows_1257"],
    .page 128 [
      "€�‚�„…†‡�‰�‹�¨ˇ¸", "�‘’“”•–—�™�›�¯˛�", "\xa0�¢£¤�¦§Ø©Ŗ«¬\xad®Æ", "°±²³´µ¶·ø¹ŗ»¼½¾æ",
      "ĄĮĀĆÄÅĘĒČÉŹĖĢĶĪĻ", "ŠŃŅÓŌÕÖ×ŲŁŚŪÜŻŽß", "ąįāćäåęēčéźėģķīļ", "šńņóōõö÷ųłśūüżž˙"]⟩,
  ⟨"cp1258", ["1258", "windows_1258"],
    .page 128 [
      "€�‚ƒ„…†‡ˆ‰�‹Œ���", "�‘’“”•–—˜™�›œ��Ÿ", "\xa0¡¢£¤¥¦§¨©ª«¬\xad®¯", "°±²³´µ¶·¸¹º»¼½¾¿",
      "ÀÁÂĂÄÅÆÇÈÉÊË\u0300ÍÎÏ", "ĐÑ\u0309ÓÔƠÖ×ØÙÚÛÜƯ\u0303ß", "àáâăäåæçèéêë\u0301íîï",
      "đñ\u0323óôơö÷øùúûüư₫ÿ"]⟩,
  ⟨"cp874", [],
    .page 128 [
      "€����…����������", "�‘’“”•–—��������", "\xa0กขฃคฅฆงจฉชซฌญฎฏ", "ฐฑฒณดตถทธนบปผฝพฟ",
      "ภมยรฤลฦวศษสหฬอฮฯ", "ะ\u0e31าำ\u0e34\u0e35\u0e36\u0e37\u0e38\u0e39\u0e3a����฿",
      "เแโใไๅๆ\u0e47\u0e48\u0e49\u0e4a\u0e4b\u0e4c\u0e4d\u0e4e๏", "๐๑๒๓๔๕๖๗๘๙๚๛"]⟩]

end ParamBinding.Xml
