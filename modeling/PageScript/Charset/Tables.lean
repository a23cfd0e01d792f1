/-!
# Character sets of one byte

In these character sets every byte is one character. A table lists the characters of the upper half
of the bytes, the lower half being ASCII, or those of all bytes; a replacement character stands for a
byte without a meaning. Most tables are like another one but for some characters.
-/

namespace PageScript.Charset

/-- Writes texts over a table, each from its place on. -/
def overwritten (table : String) (changes : List (Nat × String)) : String :=
  String.ofList <| changes.foldl (fun chars change =>
    chars.take change.1 ++ change.2.toList ++ chars.drop (change.1 + change.2.length)) table.toList

/-- The names of the tables, each with an earlier table and what is written over that one. -/
def changedTables : List (String × String × List (Nat × String)) := [
  ("iso8859_15", "latin_1", [(36, "€¥Š§š"), (52, "Žµ¶·ž¹º»ŒœŸ")]),
  ("iso8859_9", "latin_1", [(80, "Ğ"), (93, "İŞ"), (112, "ğ"), (125, "ış")]),
  ("cp1252", "latin_1", [(0, "€�‚ƒ„…†‡ˆ‰Š‹Œ�Ž��‘’“”•–—˜™š›œ�žŸ")]),
  ("palmos", "cp1252", [(1, "\u0081"), (13, "♦♣♥♠"), (27, "\u009bœ\u009d\u009e")]),
  ("cp1254", "cp1252", [(14, "�"), (30, "�"), (80, "Ğ"), (93, "İŞ"), (112, "ğ"), (125, "ış")]),
  ("iso8859_14", "latin_1", [(33, "Ḃḃ£ĊċḊ§Ẁ©ẂḋỲ\u00ad®ŸḞḟĠġṀṁ¶ṖẁṗẃṠỳẄẅṡ"), (80, "Ŵ"), (87, "Ṫ"),
    (94, "Ŷ"), (112, "ŵ"), (119, "ṫ"), (126, "ŷ")]),
  ("iso8859_16", "latin_1", [(33, "ĄąŁ€„Š§š©Ș«Ź\u00adźŻ°±ČłŽ”¶·žčș»ŒœŸżÀÁÂĂÄĆ"),
    (80, "ĐŃÒÓÔŐÖŚŰÙÚÛÜĘȚßàáâăäć"), (112, "đńòóôőöśűùúûüęț")]),
  ("cp1258", "cp1254", [(10, "�"), (26, "�"), (67, "Ă"), (76, "\u0300ÍÎÏĐÑ\u0309ÓÔƠ"),
    (93, "Ư\u0303ßàáâă"), (108, "\u0301íîïđñ\u0323óôơ"), (125, "ư₫")]),
  ("iso8859_3", "latin_1", [(33, "Ħ˘£¤�Ĥ§¨İŞĞĴ\u00ad�Ż°ħ²³´µĥ·¸ışğĵ½�żÀÁÂ�ÄĊĈ"),
    (80, "�ÑÒÓÔĠÖ×ĜÙÚÛÜŬŜßàáâ�äċĉ"), (112, "�ñòóôġö÷ĝùúûüŭŝ˙")]),
  ("iso8859_10", "latin_1", [(33, "ĄĒĢĪĨĶ§ĻĐŠŦŽ\u00adŪŊ°ąēģīĩķ·ļđšŧž―ūŋĀ"),
    (71, "ĮČÉĘËĖÍÎÏÐŅŌÓÔÕÖŨØŲ"), (96, "ā"), (103, "įčéęëėíîïðņōóôõöũøųúûüýþĸ")]),
  ("iso8859_4", "iso8859_10", [(34, "ĸŖ¤ĨĻ§¨ŠĒĢŦ\u00adŽ¯°ą˛ŗ´ĩļˇ¸šēģŧŊž"),
    (79, "ĪĐŅŌĶÔÕÖ×ØŲÚÛÜŨŪ"), (111, "īđņōķôõö÷øųúûüũū˙")]),
  ("hp_roman8", "latin_1", [
    (33, "ÀÂÈÊËÎÏ´ˋˆ¨˜ÙÛ₤¯Ýý°ÇçÑñ¡¿¤£¥§ƒ¢âêôûáéóúàèòùäëöüÅîØÆåíøæÄìÖÜÉïßÔÁÃãÐðÍÌÓÒÕõŠšÚŸÿÞ" ++
      "þ·µ¶¾—¼½ªº«■»±�")]),
  ("iso8859_2", "latin_1", [
    (33, "Ą˘Ł¤ĽŚ§¨ŠŞŤŹ\u00adŽŻ°ą˛ł´ľśˇ¸šşťź˝žżŔÁÂĂÄĹĆÇČÉĘËĚÍÎĎĐŃŇÓÔŐÖ×ŘŮÚŰÜÝŢßŕáâăäĺćçčéęë" ++
      "ěíîďđńňóôőö÷řůúűüýţ˙")]),
  ("cp1250", "iso8859_2", [
    (0, "€�‚�„…†‡�‰Š‹ŚŤŽŹ�‘’“”•–—�™š›śťžź\u00a0ˇ˘Ł¤Ą¦§¨©Ş«¬\u00ad®Ż°±˛ł´µ¶·¸ąş»Ľ˝ľ")]),
  ("iso8859_5", "latin_1", [
    (33, "ЁЂЃЄЅІЇЈЉЊЋЌ\u00adЎЏАБВГДЕЖЗИЙКЛМНОПРСТУФХЦЧШЩЪЫЬЭЮЯабвгдежзийклмнопрстуфхцчшщъы" ++
      "ьэюя№ёђѓєѕіїјљњћќ§ўџ")]),
  ("iso8859_13", "latin_1", [(33, "”¢£¤„¦§Ø©Ŗ"),
    (47, "Æ°±²³“µ¶·ø¹ŗ»¼½¾æĄĮĀĆÄÅĘĒČÉŹĖĢĶĪĻŠŃŅÓŌÕÖ×ŲŁŚŪÜŻŽßąįāćäåęēčéźėģķīļšńņóōõö÷ųłśūüżž" ++
      "’")]),
  ("cp1257", "iso8859_13", [(0, "€�‚�„…†‡�‰�‹�¨ˇ¸�‘’“”•–—�™�›�¯˛�\u00a0�¢£¤�"), (52, "´"),
    (127, "˙")]),
  ("iso8859_7", "latin_1", [
    (33, "‘’£€₯¦§¨©ͺ«¬\u00ad�―°±²³΄΅Ά·ΈΉΊ»Ό½ΎΏΐΑΒΓΔΕΖΗΘΙΚΛΜΝΞΟΠΡ�ΣΤΥΦΧΨΩΪΫάέήίΰαβγδεζηθικλ" ++
      "μνξοπρςστυφχψωϊϋόύώ�")]),
  ("cp1253", "iso8859_7", [(0, "€�‚ƒ„…†‡�‰�‹�����‘’“”•–—�™�›����\u00a0΅Ά£¤¥¦§¨©�«¬\u00ad®"),
    (53, "µ¶")]),
  ("ptcp154", "latin_1", [
    (0, "ҖҒӮғ„…ҶҮҲүҠӢҢҚҺҸҗ‘’“”•–—ҳҷҡӣңқһҹ\u00a0ЎўЈӨҘҰ§Ё©Ә«¬ӯ®Ҝ°ұІіҙө¶·ё№ә»јҪҫҝАБВГДЕЖЗИЙК" ++
      "ЛМНОПРСТУФХЦЧШЩЪЫЬЭЮЯабвгдежзийклмнопрстуфхцчшщъыьэюя")]),
  ("cp1251", "ptcp154", [(0, "ЂЃ‚ѓ„…†‡€‰Љ‹ЊЌЋЏђ"), (24, "�™љ›њќћџ"),
    (36, "¤Ґ¦§Ё©Є«¬\u00ad®Ї°±Ііґµ¶·ё№є»јЅѕї")]),
  ("kz1048", "cp1251", [(13, "ҚҺ"), (29, "қһџ\u00a0ҰұӘ¤Ө¦§Ё©Ғ"), (47, "Ү°±Ііөµ¶·ё№ғ»әҢңү")]),
  ("mac_cyrillic", "ptcp154", [
    (0, "АБВГДЕЖЗИЙКЛМНОПРСТУФХЦЧШЩЪЫЬЭЮЯ†°Ґ£§•¶І®©™Ђђ≠Ѓѓ∞±≤≥іµґЈЄєЇїЉљЊњјЅ¬√ƒ≈∆«»…\u00a0" ++
      "ЋћЌќѕ–—“”‘’÷„ЎўЏџ№Ёёя"), (127, "€")]),
  ("cp1125", "mac_cyrillic", [
    (32, "абвгдежзийклмноп░▒▓│┤╡╢╖╕╣║╗╝╜╛┐└┴┬├─┼╞╟╚╔╩╦╠═╬╧╨╤╥╙╘╒╓╫╪┘┌█▄▌▐▀рстуфхцчшщъыьэюя" ++
      "ЁёҐґЄєІіЇї·√№¤■\u00a0")]),
  ("cp866", "cp1125", [(114, "ЄєЇїЎў°∙")]),
  ("cp737", "cp1125", [(0, "ΑΒΓΔΕΖΗΘΙΚΛΜΝΞΟΠΡΣΤΥΦΧΨΩαβγδεζηθικλμνξοπρσςτυφχψ"),
    (96, "ωάέήϊίόύϋώΆΈΉΊΌΎΏ±≥≤ΪΫ÷≈°∙·√ⁿ²")]),
  ("cp860", "cp737", [(0, "ÇüéâãàÁçêÊèÍÔìÃÂÉÀÈôõòÚùÌÕÜ¢£Ù₧ÓáíóúñÑªº¿Ò¬½¼¡«»"),
    (96, "αßΓπΣσµτΦΘΩδ∞φε∩≡±≥≤⌠⌡")]),
  ("cp437", "cp860", [(4, "äàåçêëèïîìÄÅÉæÆôöòûùÿÖÜ¢£¥₧ƒ"), (41, "⌐")]),
  ("cp865", "cp437", [(27, "ø£Ø"), (47, "¤")]),
  ("cp861", "cp437", [(11, "ÐðÞ"), (21, "þûÝýÖÜø£Ø"), (36, "ÁÍÓÚ")]),
  ("cp863", "cp437", [(4, "Âà¶"), (13, "‗À§ÉÈÊôËÏûù¤ÔÜ¢£ÙÛƒ¦´óú¨¸³¯Î⌐¬½¼¾")]),
  ("cp862", "cp437", [
    (0, "\u05d0\u05d1\u05d2\u05d3\u05d4\u05d5\u05d6\u05d7\u05d8\u05d9\u05da\u05db\u05dc" ++
      "\u05dd\u05de\u05df\u05e0\u05e1\u05e2\u05e3\u05e4\u05e5\u05e6\u05e7\u05e8\u05e9" ++
      "\u05ea")]),
  ("cp850", "cp437", [(27, "ø£Ø×"), (41, "®"), (53, "ÁÂÀ©"), (61, "¢¥"), (70, "ãÃ"),
    (79, "¤ðÐÊËÈıÍÎÏ"), (93, "¦Ì▀ÓßÔÒõÕµþÞÚÛÙýÝ¯´\u00ad±‗¾¶§÷¸°¨·¹³")]),
  ("cp858", "cp850", [(85, "€")]),
  ("cp857", "cp850", [(13, "ı"), (24, "İÖÜø£ØŞş"), (38, "Ğğ"), (80, "ºªÊËÈ�"), (103, "�×ÚÛÙìÿ"),
    (114, "�")]),
  ("cp852", "cp850", [(5, "ůćçłëŐőîŹÄĆÉĹĺôöĽľŚśÖÜŤťŁ×čáíóúĄąŽžĘę¬źČş"), (55, "ĚŞ"), (61, "Żż"),
    (70, "Ăă"), (80, "đĐĎËďŇÍÎě"), (93, "ŢŮ▀ÓßÔŃńňŠšŔÚŕŰýÝţ´\u00ad˝˛ˇ˘§÷¸°¨˙űŘř")]),
  ("cp856", "cp862", [(27, "�£�×����������®¬½¼�"), (53, "���©"), (61, "¢¥"), (70, "��"),
    (79, "¤���������"), (93, "¦�▀������µ�������¯´\u00ad±‗¾¶§÷¸°¨·¹³")]),
  ("cp775", "cp860", [(0, "ĆüéāäģåćłēŖŗīŹÄÅÉæÆōöĢ¢ŚśÖÜø£Ø×¤ĀĪóŻżź”¦©®¬½¼Ł"), (53, "ĄČĘĖ"),
    (61, "ĮŠ"), (70, "ŲŪ"), (79, "Žąčęėįšųūž"), (96, "ÓßŌŃõÕµńĶķĻļņĒŅ’\u00ad±“¾¶§÷„°∙·¹³")]),
  ("koi8_t", "cp1253", [(0, "қғ‚Ғ"), (10, "ҳ‹ҲҷҶ�Қ"), (32, "�ӯӮё¤ӣ¦§��"),
    (47, "�°±²Ё�Ӣ¶·�№�»���©юабцдефгхийклмнопярстужвьызшэщчъЮАБЦДЕФГХИЙКЛМНОПЯРСТУЖВЬЫЗШЭЩЧ" ++
      "Ъ")]),
  ("koi8_u", "koi8_t", [
    (0, "─│┌┐└┘├┤┬┴┼▀▄█▌▐░▒▓⌠■∙√≈≤≥\u00a0⌡°²·÷═║╒ёє╔ії╗╘╙╚╛ґ╝╞╟╠╡ЁЄ╣ІЇ╦╧╨╩╪Ґ╬")]),
  ("koi8_r", "koi8_u", [(36, "╓╔╕╖"), (45, "╜"), (52, "╢╣╤╥"), (61, "╫")]),
  ("cp855", "cp850", [(0, "ђЂѓЃёЁєЄѕЅіІїЇјЈљЉњЊћЋќЌўЎџЏюЮъЪаАбБцЦдДеЕфФгГ"), (53, "хХиИ"),
    (61, "йЙ"), (70, "кК"), (80, "лЛмМнНоОп"), (93, "Пя▀ЯрРсСтТуУжЖвВьЬ№\u00adыЫзЗшШэЭщЩчЧ§")]),
  ("mac_greek", "latin_1", [
    (0, "Ä¹²É³ÖÜ΅àâä΄¨çéèêë£™îï•½‰ôö¦€ùûü†ΓΔΘΛΞΠß®©ΣΪ§≠°·Α±≤≥¥ΒΕΖΗΙΚΜΦΫΨΩάΝ¬ΟΡ≈Τ«»…\u00a0" ++
      "ΥΧΆΈœ–―“”‘’÷ΉΊΌΎέήίόΏύαβψδεφγηιξκλμνοπώρστθωςχυζϊϋΐΰ\u00ad")]),
  ("mac_latin2", "latin_1", [
    (0, "ÄĀāÉĄÖÜáąČäčĆćéŹźĎíďĒēĖóėôöõúĚěü†°Ę£§•¶ß®©™ę¨≠ģĮįĪ≤≥īĶ∂∑łĻļĽľĹĺŅņŃ¬√ńŇ∆«»…\u00a0" ++
      "ňŐÕőŌ–—“”‘’÷◊ōŔŕŘ‹›řŖŗŠ‚„šŚśÁŤťÍŽžŪÓÔūŮÚůŰűŲųÝýķŻŁżĢˇ")]),
  ("mac_iceland", "mac_latin2", [(1, "ÅÇÉÑÖÜáàâäãåçéèêëíìîïñóòôöõúùûüÝ°¢"),
    (43, "´¨≠ÆØ∞±≤≥¥µ∂∑∏π∫ªºΩæø¿¡¬√ƒ≈"), (75, "ÀÃÕŒœ"),
    (88, "ÿŸ⁄€ÐðÞþý·‚„‰ÂÊÁËÈÍÎÏÌÓÔ\uf8ffÒÚÛÙıˆ˜¯˘˙˚¸˝˛")]),
  ("mac_roman", "mac_iceland", [(32, "†"), (92, "‹›ﬁﬂ‡")]),
  ("mac_turkish", "mac_roman", [(90, "ĞğİıŞş"), (117, "\uf8a0")]),
  ("mac_romanian", "mac_roman", [(46, "ĂȘ"), (62, "ăș"), (94, "Țț")]),
  ("mac_croatian", "mac_roman", [(41, "Š™´¨≠Ž"), (52, "∆µ∂∑∏š∫ªºΩž"), (70, "Ć«Č"), (80, "Đ"),
    (88, "\uf8ff©"), (94, "Æ»–"), (102, "ćÁč"), (112, "đ"), (121, "πË˚¸Êæ")]),
  ("cp869", "cp860", [(0, "������Ά�·¬¦‘’Έ―ΉΊΪΌ��ΎΫ©Ώ²³ά£έήίϊΐόύΑΒΓΔΕΖΗ½ΘΙ"), (53, "ΚΛΜΝ"),
    (61, "ΞΟ"), (70, "ΠΡ"), (79, "ΣΤΥΦΧΨΩαβγ"), (93, "δε▀ζηθικλμνξοπρσςτ΄\u00ad±υφχ§ψ΅°¨ωϋΰώ")]),
  ("iso8859_8", "latin_1", [(33, "�"), (42, "×"),
    (58, "÷»¼½¾��������������������������������‗\u05d0\u05d1\u05d2\u05d3\u05d4\u05d5\u05d6" ++
      "\u05d7\u05d8\u05d9\u05da\u05db\u05dc\u05dd\u05de\u05df\u05e0\u05e1\u05e2\u05e3" ++
      "\u05e4\u05e5\u05e6\u05e7\u05e8\u05e9\u05ea��\u200e\u200f�")]),
  ("cp1255", "iso8859_8", [(0, "€�‚ƒ„…†‡ˆ‰�‹�����‘’“”•–—˜™�›����\u00a0¡¢£₪"),
    (63, "¿\u05b0\u05b1\u05b2\u05b3\u05b4\u05b5\u05b6\u05b7\u05b8\u05b9�\u05bb\u05bc\u05bd" ++
      "\u05be\u05bf\u05c0\u05c1\u05c2\u05c3\u05f0\u05f1\u05f2\u05f3\u05f4"), (95, "�")]),
  ("iso8859_11", "latin_1", [
    (33, "กขฃคฅฆงจฉชซฌญฎฏฐฑฒณดตถทธนบปผฝพฟภมยรฤลฦวศษสหฬอฮฯะ\u0e31าำ\u0e34\u0e35\u0e36\u0e37" ++
      "\u0e38\u0e39\u0e3a����฿เแโใไๅๆ\u0e47\u0e48\u0e49\u0e4a\u0e4b\u0e4c\u0e4d\u0e4e๏๐" ++
      "๑๒๓๔๕๖๗๘๙๚๛����")]),
  ("tis_620", "iso8859_11", [(32, "�")]),
  ("cp874", "iso8859_11", [(0, "€����…�����������‘’“”•–—��������")]),
  ("cp720", "cp437", [(0, "\u0080\u0081éâ\u0084à\u0086"),
    (13, "\u008d\u008e\u008f\u0090\u0651\u0652ô¤\u0640ûù\u0621\u0622\u0623\u0624£\u0625" ++
      "\u0626\u0627\u0628\u0629\u062a\u062b\u062c\u062d\u062e\u062f\u0630\u0631\u0632" ++
      "\u0633\u0634\u0635"),
    (96, "\u0636\u0637\u0638\u0639\u063a\u0641µ\u0642\u0643\u0644\u0645\u0646\u0647\u0648" ++
      "\u0649\u064a≡\u064b\u064c\u064d\u064e\u064f\u0650")]),
  ("iso8859_6", "latin_1", [
    (33, "���¤�������،\u00ad�������������\u061b���\u061f�\u0621\u0622\u0623\u0624\u0625" ++
      "\u0626\u0627\u0628\u0629\u062a\u062b\u062c\u062d\u062e\u062f\u0630\u0631\u0632" ++
      "\u0633\u0634\u0635\u0636\u0637\u0638\u0639\u063a�����\u0640\u0641\u0642\u0643" ++
      "\u0644\u0645\u0646\u0647\u0648\u0649\u064a\u064b\u064c\u064d\u064e\u064f\u0650" ++
      "\u0651\u0652�������������")]),
  ("mac_farsi", "iso8859_6", [
    (0, "Ä\u00a0ÇÉÑÖÜáàâä\u06ba«çéèêëí…îïñó»ôö÷úùûü\x20!\"#$٪&'()*+،-./۰۱۲۳۴۵۶۷۸۹:\u061b<" ++
      "=>\u061f❊"), (91, "[\\]^_"),
    (115, "\u067e\u0679\u0686\u06d5\u06a4\u06af\u0688\u0691\x7b|\x7d\u0698\u06d2")]),
  ("mac_arabic", "mac_farsi", [
    (48, "\u0660\u0661\u0662\u0663\u0664\u0665\u0666\u0667\u0668\u0669")]),
  ("cp1256", "mac_farsi", [
    (0, "€\u067e‚ƒ„…†‡ˆ‰\u0679‹Œ\u0686\u0698\u0688\u06af‘’“”•–—\u06a9™\u0691›œ\u200c" ++
      "\u200d\u06ba\u00a0،¢£¤¥¦§¨©\u06be«¬\u00ad®¯°±²³´µ¶·¸¹\u061b»¼½¾\u061f\u06c1"),
    (87, "×\u0637\u0638\u0639\u063a\u0640\u0641\u0642\u0643à\u0644â\u0645\u0646\u0647" ++
      "\u0648çèéêë\u0649\u064aîï\u064b\u064c\u064d\u064eô\u064f\u0650÷\u0651ù\u0652ûü" ++
      "\u200e\u200f")]),
  ("cp1006", "latin_1", [
    (33, "۰۱۲۳۴۵۶۷۸۹،\u061b\u00ad\u061f\ufe81\ufe8d\ufe8e\ufe8e\ufe8f\ufe91\ufb56\ufb58" ++
      "\ufe93\ufe95\ufe97\ufb66\ufb68\ufe99\ufe9b\ufe9d\ufe9f\ufb7a\ufb7c\ufea1\ufea3" ++
      "\ufea5\ufea7\ufea9\ufb84\ufeab\ufead\ufb8c\ufeaf\ufb8a\ufeb1\ufeb3\ufeb5\ufeb7" ++
      "\ufeb9\ufebb\ufebd\ufebf\ufec1\ufec5\ufec9\ufeca\ufecb\ufecc\ufecd\ufece\ufecf" ++
      "\ufed0\ufed1\ufed3\ufed5\ufed7\ufed9\ufedb\ufb92\ufb94\ufedd\ufedf\ufee0\ufee1" ++
      "\ufee3\ufb9e\ufee5\ufee7\ufe85\ufeed\ufba6\ufba8\ufba9\ufbaa\ufe80\ufe89\ufe8a" ++
      "\ufe8b\ufef1\ufef2\ufef3\ufbb0\ufbae\ufe7c\ufe7d")]),
  ("cp037", "latin_1", [
    (0, "\x00\x01\x02\x03\u009c\x09\u0086\x7f\u0097\u008d\u008e\x0b\x0c\x0d\x0e\x0f\x10" ++
      "\x11\x12\x13\u009d\u0085\x08\u0087\x18\x19\u0092\u008f\x1c\x1d\x1e\x1f\u0080" ++
      "\u0081\u0082\u0083\u0084\x0a\x17\x1b\u0088\u0089\u008a\u008b\u008c\x05\x06\x07" ++
      "\u0090\u0091\x16\u0093\u0094\u0095\u0096\x04\u0098\u0099\u009a\u009b\x14\x15" ++
      "\u009e\x1a\x20\u00a0âäàáãåçñ¢.<(+|&éêëèíîïìß!$*);¬-/ÂÄÀÁÃÅÇÑ¦,%_>?øÉÊËÈÍÎÏÌ`:#@'" ++
      "=\"Øabcdefghi«»ðýþ±°jklmnopqrªºæ¸Æ¤µ~stuvwxyz¡¿ÐÝÞ®^£¥·©§¶¼½¾[]¯¨´×\x7bABCDEFGHI" ++
      "\u00adôöòóõ\x7dJKLMNOPQR¹ûüùúÿ\\÷STUVWXYZ²ÔÖÒÓÕ0123456789³ÛÜÙÚ\u009f")]),
  ("cp1140", "cp037", [(159, "€")]),
  ("cp500", "cp037", [(74, "[.<(+!"), (90, "]$*);^"), (176, "¢"), (186, "¬|")]),
  ("cp273", "cp500", [(67, "\x7b"), (74, "Ä"), (89, "~Ü$*);^-/Â["), (106, "ö"), (124, "§"),
    (161, "ß"), (181, "@¶¼½¾¬|‾¨´×ä"), (204, "¦òóõü"), (220, "\x7dùúÿÖ"), (236, "\\"),
    (252, "]")]),
  ("cp1026", "cp500", [(72, "\x7bñÇ"), (90, "Ğİ"), (104, "[Ñş"), (121, "ı:ÖŞ'=Ü"),
    (140, "\x7d`¦"), (161, "ö"), (172, "]$@"), (192, "ç"), (204, "~òóõğ"), (220, "\\ùúÿü"),
    (236, "#"), (252, "\"")]),
  ("cp875", "cp037", [
    (65, "ΑΒΓΔΕΖΗΘΙ[.<(+!&ΚΛΜΝΞΟΠΡΣ]$*);^-/ΤΥΦΧΨΩΪΫ|,%_>?¨ΆΈΉ\u00a0ΊΌΎΏ`:#@'=\"΅abcdefghiα" ++
      "βγδεζ°jklmnopqrηθικλμ´~stuvwxyzνξοπρσ£άέήϊίόύϋώςτυφχψ"), (203, "ωΐΰ‘―"),
    (218, "±½\x1a·’¦\\\x1aSTUVWXYZ²§\x1a\x1a«¬"), (251, "©\x1a\x1a»")]),
  ("cp424", "cp037", [
    (65, "\u05d0\u05d1\u05d2\u05d3\u05d4\u05d5\u05d6\u05d7\u05d8¢.<(+|&\u05d9\u05da\u05db" ++
      "\u05dc\u05dd\u05de\u05df\u05e0\u05e1!$*);¬-/\u05e2\u05e3\u05e4\u05e5\u05e6\u05e7" ++
      "\u05e8\u05e9¦,%_>?�\u05ea��\u00a0���‗`:#@'=\"�"), (140, "���"), (154, "���¸�"),
    (170, "�����"), (203, "�����"), (219, "�����"), (235, "�����"), (251, "����")]),
  ("cp864", "cp037", [(4, "\x04\x05\x06\x07\x08\x09\x0a"),
    (20, "\x14\x15\x16\x17\x18\x19\x1a\x1b"),
    (32, "\x20!\"#$٪&'()*+,-./0123456789:;<=>?@ABCDEFGHIJKLMNOPQRSTUVWXYZ[\\]^_`abcdefghij" ++
      "klmnopqrstuvwxyz\x7b|\x7d~\x7f°·∙√▒─│┼┤┬├┴┐┌└┘β∞φ±½¼≈«»\ufef7\ufef8��\ufefb" ++
      "\ufefc�\u00a0\u00ad\ufe82£¤\ufe84��\ufe8e\ufe8f\ufe95\ufe99،\ufe9d\ufea1\ufea5" ++
      "\u0660\u0661\u0662\u0663\u0664\u0665\u0666\u0667\u0668\u0669\ufed1\u061b\ufeb1" ++
      "\ufeb5\ufeb9\u061f¢\ufe80\ufe81\ufe83\ufe85\ufeca\ufe8b\ufe8d\ufe91\ufe93\ufe97" ++
      "\ufe9b\ufe9f\ufea3\ufea7\ufea9\ufeab\ufead\ufeaf\ufeb3\ufeb7\ufebb\ufebf\ufec1" ++
      "\ufec5\ufecb\ufecf¦¬÷×\ufec9\u0640\ufed3\ufed7\ufedb\ufedf\ufee3\ufee7\ufeeb" ++
      "\ufeed\ufeef\ufef3\ufebd\ufecc\ufece\ufecd\ufee1\ufe7d\u0651\ufee5\ufee9\ufeec" ++
      "\ufef0\ufef2\ufed0\ufed5\ufef5\ufef6\ufedd\ufed9\ufef1■�")])]

/-- The tables of the character sets of one byte, by their names. -/
def byteTables : List (String × String) :=
  changedTables.foldl (fun tables (name, earlier, changes) =>
    tables ++ [(name, overwritten ((tables.lookup earlier).getD "") changes)])
    [("latin_1", String.ofList ((List.range 0x80).map fun n => Char.ofNat (0x80 + n)))]

end PageScript.Charset
