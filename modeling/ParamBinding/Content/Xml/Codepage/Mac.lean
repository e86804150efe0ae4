import ParamBinding.Content.Xml.Codepage.Basic

/-!
# Encodings of the Macintosh

One encoding for each group of scripts.
-/

namespace ParamBinding.Xml

/-- The encodings of the Macintosh. -/
def macEncodings : List Encoding := [
  ⟨"mac_croatian", [],
    .page 128 [
      "ÄÅÇÉÑÖÜáàâäãåçéè", "êëíìîïñóòôöõúùûü", "†°¢£§•¶ß®Š™´¨≠ŽØ", "∞±≤≥∆µ∂∑∏š∫ªºΩžø",
      "¿¡¬√ƒ≈Ć«Č…\xa0ÀÃÕŒœ", "Đ—“”‘’÷◊\uf8ff©⁄€‹›Æ»", "–·‚„‰ÂćÁčÈÍÎÏÌÓÔ", "đÒÚÛÙıˆ˜¯πË˚¸Êæˇ"]⟩,
  ⟨"mac_cyrillic", ["maccyrillic"],
    .page 128 [
      "АБВГДЕЖЗИЙКЛМНОП", "РСТУФХЦЧШЩЪЫЬЭЮЯ", "†°Ґ£§•¶І®©™Ђђ≠Ѓѓ", "∞±≤≥іµґЈЄєЇїЉљЊњ",
      "јЅ¬√ƒ≈∆«»…\xa0ЋћЌќѕ", "–—“”‘’÷„ЎўЏџ№Ёёя", "абвгдежзийклмноп", "рстуфхцчшщъыьэю€"]⟩,
  ⟨"mac_greek", ["macgreek"],
    .page 128 [
      "Ä¹²É³ÖÜ΅àâä΄¨çéè", "êë£™îï•½‰ôö¦€ùûü", "†ΓΔΘΛΞΠß®©ΣΪ§≠°·", "Α±≤≥¥ΒΕΖΗΙΚΜΦΫΨΩ",
      "άΝ¬ΟΡ≈Τ«»…\xa0ΥΧΆΈœ", "–―“”‘’÷ΉΊΌΎέήίόΏ", "ύαβψδεφγηιξκλμνο", "πώρστθωςχυζϊϋΐΰ\xad"]⟩,
  ⟨"mac_iceland", ["maciceland"],
    .page 128 [
      "ÄÅÇÉÑÖÜáàâäãåçéè", "êëíìîïñóòôöõúùûü", "Ý°¢£§•¶ß®©™´¨≠ÆØ", "∞±≤≥¥µ∂∑∏π∫ªºΩæø",
      "¿¡¬√ƒ≈∆«»…\xa0ÀÃÕŒœ", "–—“”‘’÷◊ÿŸ⁄€ÐðÞþ", "ý·‚„‰ÂÊÁËÈÍÎÏÌÓÔ", "\uf8ffÒÚÛÙıˆ˜¯˘˙˚¸˝˛ˇ"]⟩,
  ⟨"mac_latin2", ["mac_centeuro", "maccentraleurope", "maclatin2"],
    .page 128 [
      "ÄĀāÉĄÖÜáąČäčĆćéŹ", "źĎíďĒēĖóėôöõúĚěü", "†°Ę£§•¶ß®©™ę¨≠ģĮ", "įĪ≤≥īĶ∂∑łĻļĽľĹĺŅ",
      "ņŃ¬√ńŇ∆«»…\xa0ňŐÕőŌ", "–—“”‘’÷◊ōŔŕŘ‹›řŖ", "ŗŠ‚„šŚśÁŤťÍŽžŪÓÔ", "ūŮÚůŰűŲųÝýķŻŁżĢˇ"]⟩,
  ⟨"mac_roman", ["macintosh", "macroman"],
    .page 128 [
      "ÄÅÇÉÑÖÜáàâäãåçéè", "êëíìîïñóòôöõúùûü", "†°¢£§•¶ß®©™´¨≠ÆØ", "∞±≤≥¥µ∂∑∏π∫ªºΩæø",
      "¿¡¬√ƒ≈∆«»…\xa0ÀÃÕŒœ", "–—“”‘’÷◊ÿŸ⁄€‹›ﬁﬂ", "‡·‚„‰ÂÊÁËÈÍÎÏÌÓÔ", "\uf8ffÒÚÛÙıˆ˜¯˘˙˚¸˝˛ˇ"]⟩,
  ⟨"mac_romanian", [],
    .page 128 [
      "ÄÅÇÉÑÖÜáàâäãåçéè", "êëíìîïñóòôöõúùûü", "†°¢£§•¶ß®©™´¨≠ĂȘ", "∞±≤≥¥µ∂∑∏π∫ªºΩăș",
      "¿¡¬√ƒ≈∆«»…\xa0ÀÃÕŒœ", "–—“”‘’÷◊ÿŸ⁄€‹›Țț", "‡·‚„‰ÂÊÁËÈÍÎÏÌÓÔ", "\uf8ffÒÚÛÙıˆ˜¯˘˙˚¸˝˛ˇ"]⟩,
  ⟨"mac_turkish", ["macturkish"],
    .page 128 [
      "ÄÅÇÉÑÖÜáàâäãåçéè", "êëíìîïñóòôöõúùûü", "†°¢£§•¶ß®©™´¨≠ÆØ", "∞±≤≥¥µ∂∑∏π∫ªºΩæø",
      "¿¡¬√ƒ≈∆«»…\xa0ÀÃÕŒœ", "–—“”‘’÷◊ÿŸĞğİıŞş", "‡·‚„‰ÂÊÁËÈÍÎÏÌÓÔ", "\uf8ffÒÚÛÙ\uf8a0ˆ˜¯˘˙˚¸˝˛ˇ"]⟩]

end ParamBinding.Xml
