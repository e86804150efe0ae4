import ParamBinding.Content.Xml.Codepage.Basic

/-!
# Encodings of DOS

Encodings with characters to draw boxes with.
-/

namespace ParamBinding.Xml

/-- The encodings of DOS. -/
def dosEncodings : List Encoding := [
  ⟨"cp1006", [],
    .page 160 [
      "\xa0۰۱۲۳۴۵۶۷۸۹،؛\xad؟ﺁ", "ﺍﺎﺎﺏﺑﭖﭘﺓﺕﺗﭦﭨﺙﺛﺝﺟ", "ﭺﭼﺡﺣﺥﺧﺩﮄﺫﺭﮌﺯﮊﺱﺳﺵ", "ﺷﺹﺻﺽﺿﻁﻅﻉﻊﻋﻌﻍﻎﻏﻐﻑ",
      "ﻓﻕﻗﻙﻛﮒﮔﻝﻟﻠﻡﻣﮞﻥﻧﺅ", "ﻭﮦﮨﮩﮪﺀﺉﺊﺋﻱﻲﻳﮰﮮﹼﹽ"]⟩,
  ⟨"cp1125", ["1125", "cp866u", "ibm1125", "ruscii"],
    .page 128 [
      "АБВГДЕЖЗИЙКЛМНОП", "РСТУФХЦЧШЩЪЫЬЭЮЯ", "абвгдежзийклмноп", "░▒▓│┤╡╢╖╕╣║╗╝╜╛┐",
      "└┴┬├─┼╞╟╚╔╩╦╠═╬╧", "╨╤╥╙╘╒╓╫╪┘┌█▄▌▐▀", "рстуфхцчшщъыьэюя", "ЁёҐґЄєІіЇї·√№¤■\xa0"]⟩,
  ⟨"cp437", ["437", "cspc8codepage437", "ibm437"],
    .page 128 [
      "ÇüéâäàåçêëèïîìÄÅ", "ÉæÆôöòûùÿÖÜ¢£¥₧ƒ", "áíóúñÑªº¿⌐¬½¼¡«»", "░▒▓│┤╡╢╖╕╣║╗╝╜╛┐",
      "└┴┬├─┼╞╟╚╔╩╦╠═╬╧", "╨╤╥╙╘╒╓╫╪┘┌█▄▌▐▀", "αßΓπΣσµτΦΘΩδ∞φε∩", "≡±≥≤⌠⌡÷≈°∙·√ⁿ²■\xa0"]⟩,
  ⟨"cp720", [],
    .page 128 [
      "\x80\x81éâ\x84à\x86çêëèïî\x8d\x8e\x8f", "\x90\u0651\u0652ô¤ـûùءآأؤ£إئا",
      "بةتثجحخدذرزسشص«»", "░▒▓│┤╡╢╖╕╣║╗╝╜╛┐", "└┴┬├─┼╞╟╚╔╩╦╠═╬╧", "╨╤╥╙╘╒╓╫╪┘┌█▄▌▐▀",
      "ضطظعغفµقكلمنهوىي", "≡\u064b\u064c\u064d\u064e\u064f\u0650≈°∙·√ⁿ²■\xa0"]⟩,
  ⟨"cp737", [],
    .page 128 [
      "ΑΒΓΔΕΖΗΘΙΚΛΜΝΞΟΠ", "ΡΣΤΥΦΧΨΩαβγδεζηθ", "ικλμνξοπρσςτυφχψ", "░▒▓│┤╡╢╖╕╣║╗╝╜╛┐",
      "└┴┬├─┼╞╟╚╔╩╦╠═╬╧", "╨╤╥╙╘╒╓╫╪┘┌█▄▌▐▀", "ωάέήϊίόύϋώΆΈΉΊΌΎ", "Ώ±≥≤ΪΫ÷≈°∙·√ⁿ²■\xa0"]⟩,
  ⟨"cp775", ["775", "cspc775baltic", "ibm775"],
    .page 128 [
      "ĆüéāäģåćłēŖŗīŹÄÅ", "ÉæÆōöĢ¢ŚśÖÜø£Ø×¤", "ĀĪóŻżź”¦©®¬½¼Ł«»", "░▒▓│┤ĄČĘĖ╣║╗╝ĮŠ┐",
      "└┴┬├─┼ŲŪ╚╔╩╦╠═╬Ž", "ąčęėįšųūž┘┌█▄▌▐▀", "ÓßŌŃõÕµńĶķĻļņĒŅ’", "\xad±“¾¶§÷„°∙·¹³²■\xa0"]⟩,
  ⟨"cp850", ["850", "cspc850multilingual", "ibm850"],
    .page 128 [
      "ÇüéâäàåçêëèïîìÄÅ", "ÉæÆôöòûùÿÖÜø£Ø×ƒ", "áíóúñÑªº¿®¬½¼¡«»", "░▒▓│┤ÁÂÀ©╣║╗╝¢¥┐",
      "└┴┬├─┼ãÃ╚╔╩╦╠═╬¤", "ðÐÊËÈıÍÎÏ┘┌█▄¦Ì▀", "ÓßÔÒõÕµþÞÚÛÙýÝ¯´", "\xad±‗¾¶§÷¸°¨·¹³²■\xa0"]⟩,
  ⟨"cp852", ["852", "cspcp852", "ibm852"],
    .page 128 [
      "ÇüéâäůćçłëŐőîŹÄĆ", "ÉĹĺôöĽľŚśÖÜŤťŁ×č", "áíóúĄąŽžĘę¬źČş«»", "░▒▓│┤ÁÂĚŞ╣║╗╝Żż┐",
      "└┴┬├─┼Ăă╚╔╩╦╠═╬¤", "đĐĎËďŇÍÎě┘┌█▄ŢŮ▀", "ÓßÔŃńňŠšŔÚŕŰýÝţ´", "\xad˝˛ˇ˘§÷¸°¨˙űŘř■\xa0"]⟩,
  ⟨"cp855", ["855", "csibm855", "ibm855"],
    .page 128 [
      "ђЂѓЃёЁєЄѕЅіІїЇјЈ", "љЉњЊћЋќЌўЎџЏюЮъЪ", "аАбБцЦдДеЕфФгГ«»", "░▒▓│┤хХиИ╣║╗╝йЙ┐",
      "└┴┬├─┼кК╚╔╩╦╠═╬¤", "лЛмМнНоОп┘┌█▄Пя▀", "ЯрРсСтТуУжЖвВьЬ№", "\xadыЫзЗшШэЭщЩчЧ§■\xa0"]⟩,
  ⟨"cp856", [],
    .page 128 [
      "אבגדהוזחטיךכלםמן", "נסעףפץצקרשת�£�×�", "���������®¬½¼�«»", "░▒▓│┤���©╣║╗╝¢¥┐",
      "└┴┬├─┼��╚╔╩╦╠═╬¤", "���������┘┌█▄¦�▀", "������µ�������¯´", "\xad±‗¾¶§÷¸°¨·¹³²■\xa0"]⟩,
  ⟨"cp857", ["857", "csibm857", "ibm857"],
    .page 128 [
      "ÇüéâäàåçêëèïîıÄÅ", "ÉæÆôöòûùİÖÜø£ØŞş", "áíóúñÑĞğ¿®¬½¼¡«»", "░▒▓│┤ÁÂÀ©╣║╗╝¢¥┐",
      "└┴┬├─┼ãÃ╚╔╩╦╠═╬¤", "ºªÊËÈ�ÍÎÏ┘┌█▄¦Ì▀", "ÓßÔÒõÕµ�×ÚÛÙìÿ¯´", "\xad±�¾¶§÷¸°¨·¹³²■\xa0"]⟩,
  ⟨"cp858", ["858", "csibm858", "ibm858"],
    .page 128 [
      "ÇüéâäàåçêëèïîìÄÅ", "ÉæÆôöòûùÿÖÜø£Ø×ƒ", "áíóúñÑªº¿®¬½¼¡«»", "░▒▓│┤ÁÂÀ©╣║╗╝¢¥┐",
      "└┴┬├─┼ãÃ╚╔╩╦╠═╬¤", "ðÐÊËÈ€ÍÎÏ┘┌█▄¦Ì▀", "ÓßÔÒõÕµþÞÚÛÙýÝ¯´", "\xad±‗¾¶§÷¸°¨·¹³²■\xa0"]⟩,
  ⟨"cp860", ["860", "csibm860", "ibm860"],
    .page 128 [
      "ÇüéâãàÁçêÊèÍÔìÃÂ", "ÉÀÈôõòÚùÌÕÜ¢£Ù₧Ó", "áíóúñÑªº¿Ò¬½¼¡«»", "░▒▓│┤╡╢╖╕╣║╗╝╜╛┐",
      "└┴┬├─┼╞╟╚╔╩╦╠═╬╧", "╨╤╥╙╘╒╓╫╪┘┌█▄▌▐▀", "αßΓπΣσµτΦΘΩδ∞φε∩", "≡±≥≤⌠⌡÷≈°∙·√ⁿ²■\xa0"]⟩,
  ⟨"cp861", ["861", "cp_is", "csibm861", "ibm861"],
    .page 128 [
      "ÇüéâäàåçêëèÐðÞÄÅ", "ÉæÆôöþûÝýÖÜø£Ø₧ƒ", "áíóúÁÍÓÚ¿⌐¬½¼¡«»", "░▒▓│┤╡╢╖╕╣║╗╝╜╛┐",
      "└┴┬├─┼╞╟╚╔╩╦╠═╬╧", "╨╤╥╙╘╒╓╫╪┘┌█▄▌▐▀", "αßΓπΣσµτΦΘΩδ∞φε∩", "≡±≥≤⌠⌡÷≈°∙·√ⁿ²■\xa0"]⟩,
  ⟨"cp862", ["862", "cspc862latinhebrew", "ibm862"],
    .page 128 [
      "אבגדהוזחטיךכלםמן", "נסעףפץצקרשת¢£¥₧ƒ", "áíóúñÑªº¿⌐¬½¼¡«»", "░▒▓│┤╡╢╖╕╣║╗╝╜╛┐",
      "└┴┬├─┼╞╟╚╔╩╦╠═╬╧", "╨╤╥╙╘╒╓╫╪┘┌█▄▌▐▀", "αßΓπΣσµτΦΘΩδ∞φε∩", "≡±≥≤⌠⌡÷≈°∙·√ⁿ²■\xa0"]⟩,
  ⟨"cp863", ["863", "csibm863", "ibm863"],
    .page 128 [
      "ÇüéâÂà¶çêëèïî‗À§", "ÉÈÊôËÏûù¤ÔÜ¢£ÙÛƒ", "¦´óú¨¸³¯Î⌐¬½¼¾«»", "░▒▓│┤╡╢╖╕╣║╗╝╜╛┐",
      "└┴┬├─┼╞╟╚╔╩╦╠═╬╧", "╨╤╥╙╘╒╓╫╪┘┌█▄▌▐▀", "αßΓπΣσµτΦΘΩδ∞φε∩", "≡±≥≤⌠⌡÷≈°∙·√ⁿ²■\xa0"]⟩,
  ⟨"cp865", ["865", "csibm865", "ibm865"],
    .page 128 [
      "ÇüéâäàåçêëèïîìÄÅ", "ÉæÆôöòûùÿÖÜø£Ø₧ƒ", "áíóúñÑªº¿⌐¬½¼¡«¤", "░▒▓│┤╡╢╖╕╣║╗╝╜╛┐",
      "└┴┬├─┼╞╟╚╔╩╦╠═╬╧", "╨╤╥╙╘╒╓╫╪┘┌█▄▌▐▀", "αßΓπΣσµτΦΘΩδ∞φε∩", "≡±≥≤⌠⌡÷≈°∙·√ⁿ²■\xa0"]⟩,
  ⟨"cp866", ["866", "csibm866", "ibm866"],
    .page 128 [
      "АБВГДЕЖЗИЙКЛМНОП", "РСТУФХЦЧШЩЪЫЬЭЮЯ", "абвгдежзийклмноп", "░▒▓│┤╡╢╖╕╣║╗╝╜╛┐",
      "└┴┬├─┼╞╟╚╔╩╦╠═╬╧", "╨╤╥╙╘╒╓╫╪┘┌█▄▌▐▀", "рстуфхцчшщъыьэюя", "ЁёЄєЇїЎў°∙·√№¤■\xa0"]⟩,
  ⟨"cp869", ["869", "cp_gr", "csibm869", "ibm869"],
    .page 128 [
      "������Ά�·¬¦‘’Έ―Ή", "ΊΪΌ��ΎΫ©Ώ²³ά£έήί", "ϊΐόύΑΒΓΔΕΖΗ½ΘΙ«»", "░▒▓│┤ΚΛΜΝ╣║╗╝ΞΟ┐",
      "└┴┬├─┼ΠΡ╚╔╩╦╠═╬Σ", "ΤΥΦΧΨΩαβγ┘┌█▄δε▀", "ζηθικλμνξοπρσςτ΄", "\xad±υφχ§ψ΅°¨ωϋΰώ■\xa0"]⟩]

end ParamBinding.Xml
