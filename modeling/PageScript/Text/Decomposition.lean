import PageScript.Text.Ranges

/-!
# Canonical decomposition

Every character has a combining class, which tells in what order marks stand, and some characters
are canonically the same as one other character or as a pair of characters.
-/

namespace PageScript.Text

set_option maxRecDepth 20000

/-- The first code points of the runs of one combining class, each with the class behind it. -/
def classRuns : Array Nat := #[
  0x300, 230, 0x315, 232, 0x316, 220, 0x31A, 232, 0x31B, 216, 0x31C, 220, 0x321, 202, 0x323, 220,
  0x327, 202, 0x329, 220, 0x334, 1, 0x339, 220, 0x33D, 230, 0x345, 240, 0x346, 230, 0x347, 220,
  0x34A, 230, 0x34D, 220, 0x34F, 0, 0x350, 230, 0x353, 220, 0x357, 230, 0x358, 232, 0x359, 220,
  0x35B, 230, 0x35C, 233, 0x35D, 234, 0x35F, 233, 0x360, 234, 0x362, 233, 0x363, 230, 0x370, 0,
  0x483, 230, 0x488, 0, 0x591, 220, 0x592, 230, 0x596, 220, 0x597, 230, 0x59A, 222, 0x59B, 220,
  0x59C, 230, 0x5A2, 220, 0x5A8, 230, 0x5AA, 220, 0x5AB, 230, 0x5AD, 222, 0x5AE, 228, 0x5AF, 230,
  0x5B0, 10, 0x5B1, 11, 0x5B2, 12, 0x5B3, 13, 0x5B4, 14, 0x5B5, 15, 0x5B6, 16, 0x5B7, 17, 0x5B8,
  18, 0x5B9, 19, 0x5BB, 20, 0x5BC, 21, 0x5BD, 22, 0x5BE, 0, 0x5BF, 23, 0x5C0, 0, 0x5C1, 24, 0x5C2,
  25, 0x5C3, 0, 0x5C4, 230, 0x5C5, 220, 0x5C6, 0, 0x5C7, 18, 0x5C8, 0, 0x610, 230, 0x618, 30,
  0x619, 31, 0x61A, 32, 0x61B, 0, 0x64B, 27, 0x64C, 28, 0x64D, 29, 0x64E, 30, 0x64F, 31, 0x650,
  32, 0x651, 33, 0x652, 34, 0x653, 230, 0x655, 220, 0x657, 230, 0x65C, 220, 0x65D, 230, 0x65F,
  220, 0x660, 0, 0x670, 35, 0x671, 0, 0x6D6, 230, 0x6DD, 0, 0x6DF, 230, 0x6E3, 220, 0x6E4, 230,
  0x6E5, 0, 0x6E7, 230, 0x6E9, 0, 0x6EA, 220, 0x6EB, 230, 0x6ED, 220, 0x6EE, 0, 0x711, 36, 0x712,
  0, 0x730, 230, 0x731, 220, 0x732, 230, 0x734, 220, 0x735, 230, 0x737, 220, 0x73A, 230, 0x73B,
  220, 0x73D, 230, 0x73E, 220, 0x73F, 230, 0x742, 220, 0x743, 230, 0x744, 220, 0x745, 230, 0x746,
  220, 0x747, 230, 0x748, 220, 0x749, 230, 0x74B, 0, 0x7EB, 230, 0x7F2, 220, 0x7F3, 230, 0x7F4, 0,
  0x7FD, 220, 0x7FE, 0, 0x816, 230, 0x81A, 0, 0x81B, 230, 0x824, 0, 0x825, 230, 0x828, 0, 0x829,
  230, 0x82E, 0, 0x859, 220, 0x85C, 0, 0x898, 230, 0x899, 220, 0x89C, 230, 0x8A0, 0, 0x8CA, 230,
  0x8CF, 220, 0x8D4, 230, 0x8E2, 0, 0x8E3, 220, 0x8E4, 230, 0x8E6, 220, 0x8E7, 230, 0x8E9, 220,
  0x8EA, 230, 0x8ED, 220, 0x8F0, 27, 0x8F1, 28, 0x8F2, 29, 0x8F3, 230, 0x8F6, 220, 0x8F7, 230,
  0x8F9, 220, 0x8FB, 230, 0x900, 0, 0x93C, 7, 0x93D, 0, 0x94D, 9, 0x94E, 0, 0x951, 230, 0x952,
  220, 0x953, 230, 0x955, 0, 0x9BC, 7, 0x9BD, 0, 0x9CD, 9, 0x9CE, 0, 0x9FE, 230, 0x9FF, 0, 0xA3C,
  7, 0xA3D, 0, 0xA4D, 9, 0xA4E, 0, 0xABC, 7, 0xABD, 0, 0xACD, 9, 0xACE, 0, 0xB3C, 7, 0xB3D, 0,
  0xB4D, 9, 0xB4E, 0, 0xBCD, 9, 0xBCE, 0, 0xC3C, 7, 0xC3D, 0, 0xC4D, 9, 0xC4E, 0, 0xC55, 84,
  0xC56, 91, 0xC57, 0, 0xCBC, 7, 0xCBD, 0, 0xCCD, 9, 0xCCE, 0, 0xD3B, 9, 0xD3D, 0, 0xD4D, 9,
  0xD4E, 0, 0xDCA, 9, 0xDCB, 0, 0xE38, 103, 0xE3A, 9, 0xE3B, 0, 0xE48, 107, 0xE4C, 0, 0xEB8, 118,
  0xEBA, 9, 0xEBB, 0, 0xEC8, 122, 0xECC, 0, 0xF18, 220, 0xF1A, 0, 0xF35, 220, 0xF36, 0, 0xF37,
  220, 0xF38, 0, 0xF39, 216, 0xF3A, 0, 0xF71, 129, 0xF72, 130, 0xF73, 0, 0xF74, 132, 0xF75, 0,
  0xF7A, 130, 0xF7E, 0, 0xF80, 130, 0xF81, 0, 0xF82, 230, 0xF84, 9, 0xF85, 0, 0xF86, 230, 0xF88,
  0, 0xFC6, 220, 0xFC7, 0, 0x1037, 7, 0x1038, 0, 0x1039, 9, 0x103B, 0, 0x108D, 220, 0x108E, 0,
  0x135D, 230, 0x1360, 0, 0x1714, 9, 0x1716, 0, 0x1734, 9, 0x1735, 0, 0x17D2, 9, 0x17D3, 0,
  0x17DD, 230, 0x17DE, 0, 0x18A9, 228, 0x18AA, 0, 0x1939, 222, 0x193A, 230, 0x193B, 220, 0x193C,
  0, 0x1A17, 230, 0x1A18, 220, 0x1A19, 0, 0x1A60, 9, 0x1A61, 0, 0x1A75, 230, 0x1A7D, 0, 0x1A7F,
  220, 0x1A80, 0, 0x1AB0, 230, 0x1AB5, 220, 0x1ABB, 230, 0x1ABD, 220, 0x1ABE, 0, 0x1ABF, 220,
  0x1AC1, 230, 0x1AC3, 220, 0x1AC5, 230, 0x1ACA, 220, 0x1ACB, 230, 0x1ACF, 0, 0x1B34, 7, 0x1B35,
  0, 0x1B44, 9, 0x1B45, 0, 0x1B6B, 230, 0x1B6C, 220, 0x1B6D, 230, 0x1B74, 0, 0x1BAA, 9, 0x1BAC, 0,
  0x1BE6, 7, 0x1BE7, 0, 0x1BF2, 9, 0x1BF4, 0, 0x1C37, 7, 0x1C38, 0, 0x1CD0, 230, 0x1CD3, 0,
  0x1CD4, 1, 0x1CD5, 220, 0x1CDA, 230, 0x1CDC, 220, 0x1CE0, 230, 0x1CE1, 0, 0x1CE2, 1, 0x1CE9, 0,
  0x1CED, 220, 0x1CEE, 0, 0x1CF4, 230, 0x1CF5, 0, 0x1CF8, 230, 0x1CFA, 0, 0x1DC0, 230, 0x1DC2,
  220, 0x1DC3, 230, 0x1DCA, 220, 0x1DCB, 230, 0x1DCD, 234, 0x1DCE, 214, 0x1DCF, 220, 0x1DD0, 202,
  0x1DD1, 230, 0x1DF6, 232, 0x1DF7, 228, 0x1DF9, 220, 0x1DFA, 218, 0x1DFB, 230, 0x1DFC, 233,
  0x1DFD, 220, 0x1DFE, 230, 0x1DFF, 220, 0x1E00, 0, 0x20D0, 230, 0x20D2, 1, 0x20D4, 230, 0x20D8,
  1, 0x20DB, 230, 0x20DD, 0, 0x20E1, 230, 0x20E2, 0, 0x20E5, 1, 0x20E7, 230, 0x20E8, 220, 0x20E9,
  230, 0x20EA, 1, 0x20EC, 220, 0x20F0, 230, 0x20F1, 0, 0x2CEF, 230, 0x2CF2, 0, 0x2D7F, 9, 0x2D80,
  0, 0x2DE0, 230, 0x2E00, 0, 0x302A, 218, 0x302B, 228, 0x302C, 232, 0x302D, 222, 0x302E, 224,
  0x3030, 0, 0x3099, 8, 0x309B, 0, 0xA66F, 230, 0xA670, 0, 0xA674, 230, 0xA67E, 0, 0xA69E, 230,
  0xA6A0, 0, 0xA6F0, 230, 0xA6F2, 0, 0xA806, 9, 0xA807, 0, 0xA82C, 9, 0xA82D, 0, 0xA8C4, 9,
  0xA8C5, 0, 0xA8E0, 230, 0xA8F2, 0, 0xA92B, 220, 0xA92E, 0, 0xA953, 9, 0xA954, 0, 0xA9B3, 7,
  0xA9B4, 0, 0xA9C0, 9, 0xA9C1, 0, 0xAAB0, 230, 0xAAB1, 0, 0xAAB2, 230, 0xAAB4, 220, 0xAAB5, 0,
  0xAAB7, 230, 0xAAB9, 0, 0xAABE, 230, 0xAAC0, 0, 0xAAC1, 230, 0xAAC2, 0, 0xAAF6, 9, 0xAAF7, 0,
  0xABED, 9, 0xABEE, 0, 0xFB1E, 26, 0xFB1F, 0, 0xFE20, 230, 0xFE27, 220, 0xFE2E, 230, 0xFE30, 0,
  0x101FD, 220, 0x101FE, 0, 0x102E0, 220, 0x102E1, 0, 0x10376, 230, 0x1037B, 0, 0x10A0D, 220,
  0x10A0E, 0, 0x10A0F, 230, 0x10A10, 0, 0x10A38, 230, 0x10A39, 1, 0x10A3A, 220, 0x10A3B, 0,
  0x10A3F, 9, 0x10A40, 0, 0x10AE5, 230, 0x10AE6, 220, 0x10AE7, 0, 0x10D24, 230, 0x10D28, 0,
  0x10EAB, 230, 0x10EAD, 0, 0x10F46, 220, 0x10F48, 230, 0x10F4B, 220, 0x10F4C, 230, 0x10F4D, 220,
  0x10F51, 0, 0x10F82, 230, 0x10F83, 220, 0x10F84, 230, 0x10F85, 220, 0x10F86, 0, 0x11046, 9,
  0x11047, 0, 0x11070, 9, 0x11071, 0, 0x1107F, 9, 0x11080, 0, 0x110B9, 9, 0x110BA, 7, 0x110BB, 0,
  0x11100, 230, 0x11103, 0, 0x11133, 9, 0x11135, 0, 0x11173, 7, 0x11174, 0, 0x111C0, 9, 0x111C1,
  0, 0x111CA, 7, 0x111CB, 0, 0x11235, 9, 0x11236, 7, 0x11237, 0, 0x112E9, 7, 0x112EA, 9, 0x112EB,
  0, 0x1133B, 7, 0x1133D, 0, 0x1134D, 9, 0x1134E, 0, 0x11366, 230, 0x1136D, 0, 0x11370, 230,
  0x11375, 0, 0x11442, 9, 0x11443, 0, 0x11446, 7, 0x11447, 0, 0x1145E, 230, 0x1145F, 0, 0x114C2,
  9, 0x114C3, 7, 0x114C4, 0, 0x115BF, 9, 0x115C0, 7, 0x115C1, 0, 0x1163F, 9, 0x11640, 0, 0x116B6,
  9, 0x116B7, 7, 0x116B8, 0, 0x1172B, 9, 0x1172C, 0, 0x11839, 9, 0x1183A, 7, 0x1183B, 0, 0x1193D,
  9, 0x1193F, 0, 0x11943, 7, 0x11944, 0, 0x119E0, 9, 0x119E1, 0, 0x11A34, 9, 0x11A35, 0, 0x11A47,
  9, 0x11A48, 0, 0x11A99, 9, 0x11A9A, 0, 0x11C3F, 9, 0x11C40, 0, 0x11D42, 7, 0x11D43, 0, 0x11D44,
  9, 0x11D46, 0, 0x11D97, 9, 0x11D98, 0, 0x16AF0, 1, 0x16AF5, 0, 0x16B30, 230, 0x16B37, 0,
  0x16FF0, 6, 0x16FF2, 0, 0x1BC9E, 1, 0x1BC9F, 0, 0x1D165, 216, 0x1D167, 1, 0x1D16A, 0, 0x1D16D,
  226, 0x1D16E, 216, 0x1D173, 0, 0x1D17B, 220, 0x1D183, 0, 0x1D185, 230, 0x1D18A, 220, 0x1D18C, 0,
  0x1D1AA, 230, 0x1D1AE, 0, 0x1D242, 230, 0x1D245, 0, 0x1E000, 230, 0x1E007, 0, 0x1E008, 230,
  0x1E019, 0, 0x1E01B, 230, 0x1E022, 0, 0x1E023, 230, 0x1E025, 0, 0x1E026, 230, 0x1E02B, 0,
  0x1E130, 230, 0x1E137, 0, 0x1E2AE, 230, 0x1E2AF, 0, 0x1E2EC, 230, 0x1E2F0, 0, 0x1E8D0, 220,
  0x1E8D7, 0, 0x1E944, 230, 0x1E94A, 7, 0x1E94B, 0]

/-- The combining class of a code point. -/
def combiningClass (n : Nat) : Nat :=
  let index := bisect (fun i => classRuns.getD (2 * i) 0) n 0 (classRuns.size / 2)
  if index = 0 then 0 else classRuns.getD (2 * index - 1) 0

/-- Code points that are the same as another one: the first of some that follow each other, and the
characters that they are the same as. -/
def singleDecompositions : List (Nat × String) := [
  (0x340, "\u0300\u0301"), (0x343, "\u0313"), (0x374, "ʹ"), (0x37E, ";"), (0x387, "·"),
  (0x1F71, "ά"), (0x1F73, "έ"), (0x1F75, "ή"), (0x1F77, "ί"), (0x1F79, "ό"), (0x1F7B, "ύ"),
  (0x1F7D, "ώ"), (0x1FBB, "Ά"), (0x1FBE, "ι"), (0x1FC9, "Έ"), (0x1FCB, "Ή"), (0x1FD3, "ΐ"),
  (0x1FDB, "Ί"), (0x1FE3, "ΰ"), (0x1FEB, "Ύ"), (0x1FEE, "΅`"), (0x1FF9, "Ό"), (0x1FFB, "Ώ"),
  (0x1FFD, "´"), (0x2000, "\u2002\u2003"), (0x2126, "Ω"), (0x212A, "KÅ"), (0x2329, "〈〉"),
  (0xF900, "豈更車賈滑串句龜龜契金喇奈懶癩羅蘿螺裸邏樂洛烙珞落酪駱亂卵欄爛蘭鸞嵐濫藍襤拉臘蠟"),
  (0xF928, "廊朗浪狼郎來冷勞擄櫓爐盧老蘆虜路露魯鷺碌祿綠菉錄鹿論壟弄籠聾牢磊賂雷壘屢樓淚漏累"),
  (0xF950, "縷陋勒肋凜凌稜綾菱陵讀拏樂諾丹寧怒率異北磻便復不泌數索參塞省葉說殺辰沈拾若掠略亮"),
  (0xF978, "兩凉梁糧良諒量勵呂女廬旅濾礪閭驪麗黎力曆歷轢年憐戀撚漣煉璉秊練聯輦蓮連鍊列劣咽烈"),
  (0xF9A0, "裂說廉念捻殮簾獵令囹寧嶺怜玲瑩羚聆鈴零靈領例禮醴隸惡了僚寮尿料樂燎療蓼遼龍暈阮劉"),
  (0xF9C8, "杻柳流溜琉留硫紐類六戮陸倫崙淪輪律慄栗率隆利吏履易李梨泥理痢罹裏裡里離匿溺吝燐璘"), (0xF9F0, "藺隣鱗麟林淋臨立笠粒狀炙識什茶刺切度拓糖宅洞暴輻行降見廓兀嗀"),
  (0xFA10, "塚"), (0xFA12, "晴"), (0xFA15, "凞猪益礼神祥福靖精羽"), (0xFA20, "蘒"), (0xFA22, "諸"),
  (0xFA25, "逸都"), (0xFA2A, "飯飼館鶴郞隷侮僧免勉勤卑喝嘆器塀墨層屮悔慨憎懲敏既暑梅海渚漢煮爫琢碑社祉祈祐祖祝"),
  (0xFA52, "禍禎穀突節練縉繁署者臭艹艹著褐視謁謹賓贈辶逸難響頻恵𤋮舘"), (0xFA70, "並况全侀充冀勇勺喝啕喙嗢塚墳奄奔婢嬨廒廙彩徭惘慎愈憎慠懲戴揄搜摒敖晴朗望杖歹殺流"),
  (0xFA98, "滛滋漢瀞煮瞧爵犯猪瑱甆画瘝瘟益盛直睊着磌窱節类絛練缾者荒華蝹襁覆視調諸請謁諾諭謹"), (0xFAC0, "變贈輸遲醙鉶陼難靖韛響頋頻鬒龜𢡊𢡄𣏕㮝䀘䀹𥉉𥳐𧻓齃龎"),
  (0x2F800, "丽丸乁𠄢你侮侻倂偺備僧像㒞𠘺免兔兤具𠔜㒹內再𠕋冗冤仌冬况𩇟凵刃㓟刻剆割剷㔕勇勉勤"),
  (0x2F828, "勺包匆北卉卑博即卽卿卿卿𠨬灰及叟𠭣叫叱吆咞吸呈周咢哶唐啓啣善善喙喫喳嗂圖嘆圗噑噴"),
  (0x2F850, "切壮城埴堍型堲報墬𡓤売壷夆多夢奢𡚨𡛪姬娛娧姘婦㛮㛼嬈嬾嬾𡧈寃寘寧寳𡬘寿将当尢㞁屠"),
  (0x2F878, "屮峀岍𡷤嵃𡷦嵮嵫嵼巡巢㠯巽帨帽幩㡢𢆃㡼庰庳庶廊𪎒廾𢌱𢌱舁弢弢㣇𣊸𦇚形彫㣣徚忍志忹"),
  (0x2F8A0, "悁㤺㤜悔𢛔惇慈慌慎慌慺憎憲憤憯懞懲懶成戛扝抱拔捐𢬌挽拼捨掃揤𢯱搢揅掩㨮摩摾撝摷㩬"),
  (0x2F8C8, "敏敬𣀊旣書晉㬙暑㬈㫤冒冕最暜肭䏙朗望朡杞杓𣏃㭉柺枅桒梅𣑭梎栟椔㮝楂榣槪檨𣚣櫛㰘次"),
  (0x2F8F0, "𣢧歔㱎歲殟殺殻𣪍𡴋𣫺汎𣲼沿泍汧洖派海流浩浸涅𣴞洴港湮㴳滋滇𣻑淹潮𣽞𣾎濆瀹瀞瀛㶖灊"),
  (0x2F918, "災灷炭𠔥煅𤉣熜𤎫爨爵牐𤘈犀犕𤜵𤠔獺王㺬玥㺸㺸瑇瑜瑱璅瓊㼛甤𤰶甾𤲒異𢆟瘐𤾡𤾸𥁄㿼䀈"),
  (0x2F940, "直𥃳𥃲𥄙𥄳眞真真睊䀹瞋䁆䂖𥐝硎碌磌䃣𥘦祖𥚚𥛅福秫䄯穀穊穏𥥼𥪧𥪧竮䈂𥮫篆築䈧𥲀糒䊠"),
  (0x2F968, "糨糣紀𥾆絣䌁緇縂繅䌴𦈨𦉇䍙𦋙罺𦌾羕翺者𦓚𦔣聠𦖨聰𣍟䏕育脃䐋脾媵𦞧𦞵𣎓𣎜舁舄辞䑫芑"),
  (0x2F990, "芋芝劳花芳芽苦𦬼若茝荣莭茣莽菧著荓菊菌菜𦰶𦵫𦳕䔫蓱蓳蔖𧏊蕤𦼬䕝䕡𦾱𧃒䕫虐虜虧虩蚩"),
  (0x2F9B8, "蚈蜎蛢蝹蜨蝫螆䗗蟡蠁䗹衠衣𧙧裗裞䘵裺㒻𧢮𧥦䚾䛇誠諭變豕𧲨貫賁贛起𧼯𠠄跋趼跰𠣞軔輸"),
  (0x2F9E0, "𨗒𨗭邔郱鄑𨜮鄛鈸鋗鋘鉼鏹鐕𨯺開䦕閷𨵷䧦雃嶲霣𩅅𩈚䩮䩶韠𩐊䪲𩒖頋頋頩𩖶飢䬳餩馧駂駾"), (0x2FA08, "䯎𩬰鬒鱀鳽䳎䳭鵧𪃎䳸𪄅𪈎𪊑麻䵖黹黾鼅鼏鼖鼻𪘀")]

/-- Code points that are the same as a pair of others: the second of the pair, and the first ones, each
with the character that is the same as the pair behind it. -/
def pairDecompositions : List (Nat × String) := [
  (0x300, "AÀEÈIÌOÒUÙaàeèiìoòuùÜǛüǜNǸnǹЕЀИЍеѐиѝĒḔēḕŌṐōṑWẀwẁÂẦâầĂẰăằÊỀêềÔỒôồƠỜơờƯỪưừYỲyỳἀἂἁἃ"),
  (0x300, "ἈἊἉἋἐἒἑἓἘἚἙἛἠἢἡἣἨἪἩἫἰἲἱἳἸἺἹἻὀὂὁὃὈὊὉὋὐὒὑὓὙὛὠὢὡὣὨὪὩὫαὰεὲηὴιὶοὸυὺωὼΑᾺΕῈΗῊ᾿῍ϊῒΙῚ῾῝ϋῢ"),
  (0x300, "ΥῪ¨῭ΟῸΩῺ"),
  (0x301, "AÁEÉIÍOÓUÚYÝaáeéiíoóuúyýCĆcćLĹlĺNŃnńRŔrŕSŚsśZŹzźÜǗüǘGǴgǵÅǺåǻÆǼæǽØǾøǿ\u0308\u0344¨΅ΑΆΕΈΗΉΙΊ"),
  (0x301, "ΟΌΥΎΩΏϊΐαάεέηήιίϋΰοόυύωώϒϓГЃКЌгѓкќÇḈçḉĒḖēḗÏḮïḯKḰkḱMḾmḿÕṌõṍŌṒōṓPṔpṕŨṸũṹWẂwẃÂẤâấĂẮ"),
  (0x301, "ăắÊẾêếÔỐôốƠỚơớƯỨưứἀἄἁἅἈἌἉἍἐἔἑἕἘἜἙἝἠἤἡἥἨἬἩἭἰἴἱἵἸἼἹἽὀὄὁὅὈὌὉὍὐὔὑὕὙὝὠὤὡὥὨὬὩὭ᾿῎῾῞"),
  (0x302, "AÂEÊIÎOÔUÛaâeêiîoôuûCĈcĉGĜgĝHĤhĥJĴjĵSŜsŝWŴwŵYŶyŷZẐzẑẠẬạậẸỆẹệỌỘọộ"),
  (0x303, "AÃNÑOÕaãnñoõIĨiĩUŨuũVṼvṽÂẪâẫĂẴăẵEẼeẽÊỄêễÔỖôỗƠỠơỡƯỮưữYỸyỹ"),
  (0x304, "AĀaāEĒeēIĪiīOŌoōUŪuūÜǕüǖÄǞäǟȦǠȧǡÆǢæǣǪǬǫǭÖȪöȫÕȬõȭȮȰȯȱYȲyȳИӢиӣУӮуӯGḠgḡḶḸḷḹṚṜṛṝαᾱΑᾹ"),
  (0x304, "ιῑΙῙυῡΥῩ"), (0x306, "AĂaăEĔeĕGĞgğIĬiĭOŎoŏUŬuŭУЎИЙийуўЖӁжӂАӐаӑЕӖеӗȨḜȩḝẠẶạặαᾰΑᾸιῐΙῘυῠΥῨ"),
  (0x307, "CĊcċEĖeėGĠgġIİZŻzżAȦaȧOȮoȯBḂbḃDḊdḋFḞfḟHḢhḣMṀmṁNṄnṅPṖpṗRṘrṙSṠsṡŚṤśṥŠṦšṧṢṨṣṩTṪtṫWẆ"),
  (0x307, "wẇXẊxẋYẎyẏſẛ"),
  (0x308, "AÄEËIÏOÖUÜaäeëiïoöuüyÿYŸΙΪΥΫιϊυϋϒϔЕЁІЇеёіїАӒаӓӘӚәӛЖӜжӝЗӞзӟИӤиӥОӦоӧӨӪөӫЭӬэӭУӰуӱЧӴ"),
  (0x308, "чӵЫӸыӹHḦhḧÕṎõṏŪṺūṻWẄwẅXẌxẍtẗ"),
  (0x309, "AẢaảÂẨâẩĂẲăẳEẺeẻÊỂêểIỈiỉOỎoỏÔỔôổƠỞơởUỦuủƯỬưửYỶyỷ"), (0x30A, "AÅaåUŮuůwẘyẙ"),
  (0x30B, "OŐoőUŰuűУӲуӳ"),
  (0x30C, "CČcčDĎdďEĚeěLĽlľNŇnňRŘrřSŠsšTŤtťZŽzžAǍaǎIǏiǐOǑoǒUǓuǔÜǙüǚGǦgǧKǨkǩƷǮʒǯjǰHȞhȟ"),
  (0x30F, "AȀaȁEȄeȅIȈiȉOȌoȍRȐrȑUȔuȕѴѶѵѷ"), (0x311, "AȂaȃEȆeȇIȊiȋOȎoȏRȒrȓUȖuȗ"),
  (0x313, "αἀΑἈεἐΕἘηἠΗἨιἰΙἸοὀΟὈυὐωὠΩὨρῤ"), (0x314, "αἁΑἉεἑΕἙηἡΗἩιἱΙἹοὁΟὉυὑΥὙωὡΩὩρῥΡῬ"),
  (0x31B, "OƠoơUƯuư"),
  (0x323, "BḄbḅDḌdḍHḤhḥKḲkḳLḶlḷMṂmṃNṆnṇRṚrṛSṢsṣTṬtṭVṾvṿWẈwẉZẒzẓAẠaạEẸeẹIỊiịOỌoọƠỢơợUỤuụƯỰưự"),
  (0x323, "YỴyỵ"), (0x324, "UṲuṳ"), (0x325, "AḀaḁ"), (0x326, "SȘsșTȚtț"),
  (0x327, "CÇcçGĢgģKĶkķLĻlļNŅnņRŖrŗSŞsşTŢtţEȨeȩDḐdḑHḨhḩ"), (0x328, "AĄaąEĘeęIĮiįUŲuųOǪoǫ"),
  (0x32D, "DḒdḓEḘeḙLḼlḽNṊnṋTṰtṱUṶuṷ"), (0x32E, "HḪhḫ"), (0x330, "EḚeḛIḬiḭUṴuṵ"),
  (0x331, "BḆbḇDḎdḏKḴkḵLḺlḻNṈnṉRṞrṟTṮtṯZẔzẕhẖ"),
  (0x338, "←↚→↛↔↮⇐⇍⇔⇎⇒⇏∃∄∈∉∋∌∣∤∥∦∼≁≃≄≅≇≈≉=≠≡≢≍≭<≮>≯≤≰≥≱≲≴≳≵≶≸≷≹≺⊀≻⊁⊂⊄⊃⊅⊆⊈⊇⊉⊢⊬⊨⊭⊩⊮⊫⊯≼⋠≽⋡⊑⋢⊒⋣"),
  (0x338, "⊲⋪⊳⋫⊴⋬⊵⋭⫝⫝̸"), (0x342, "ἀἆἁἇἈἎἉἏἠἦἡἧἨἮἩἯἰἶἱἷἸἾἹἿὐὖὑὗὙὟὠὦὡὧὨὮὩὯαᾶ¨῁ηῆ᾿῏ιῖϊῗ῾῟υῦϋῧωῶ"),
  (0x345, "ἀᾀἁᾁἂᾂἃᾃἄᾄἅᾅἆᾆἇᾇἈᾈἉᾉἊᾊἋᾋἌᾌἍᾍἎᾎἏᾏἠᾐἡᾑἢᾒἣᾓἤᾔἥᾕἦᾖἧᾗἨᾘἩᾙἪᾚἫᾛἬᾜἭᾝἮᾞἯᾟὠᾠὡᾡὢᾢὣᾣὤᾤὥᾥὦᾦὧᾧ"),
  (0x345, "ὨᾨὩᾩὪᾪὫᾫὬᾬὭᾭὮᾮὯᾯὰᾲαᾳάᾴᾶᾷΑᾼὴῂηῃήῄῆῇΗῌὼῲωῳώῴῶῷΩῼ"), (0x5B4, "ייִ"), (0x5B7, "ײײַאאַ"),
  (0x5B8, "אאָ"), (0x5B9, "ווֹ"), (0x5BC, "אאּבבּגגּדדּההּווּזזּטטּייּךךּככּללּממּננּססּףףּפפּצצּקקּררּששּתתּ"),
  (0x5BF, "בבֿככֿפפֿ"), (0x5C1, "ששׁשּשּׁ"), (0x5C2, "ששׂשּשּׂ"), (0x653, "اآ"), (0x654, "اأوؤيئەۀہۂےۓ"),
  (0x655, "اإ"), (0x93C, "नऩरऱळऴकक़खख़गग़जज़डड़ढढ़फफ़यय़"), (0x9BC, "ডড়ঢঢ়যয়"), (0x9BE, "\u09C7\u09CB"),
  (0x9D7, "\u09C7\u09CC"), (0xA3C, "ਲਲ਼ਸਸ਼ਖਖ਼ਗਗ਼ਜਜ਼ਫਫ਼"), (0xB3C, "ଡଡ଼ଢଢ଼"), (0xB3E, "\u0B47\u0B4B"),
  (0xB56, "\u0B47\u0B48"), (0xB57, "\u0B47\u0B4C"), (0xBBE, "\u0BC6\u0BCA\u0BC7\u0BCB"),
  (0xBD7, "ஒஔ\u0BC6\u0BCC"), (0xC56, "\u0C46\u0C48"), (0xCC2, "\u0CC6\u0CCA"),
  (0xCD5, "\u0CBF\u0CC0\u0CC6\u0CC7\u0CCA\u0CCB"), (0xCD6, "\u0CC6\u0CC8"),
  (0xD3E, "\u0D46\u0D4A\u0D47\u0D4B"), (0xD57, "\u0D46\u0D4C"), (0xDCA, "\u0DD9\u0DDA\u0DDC\u0DDD"),
  (0xDCF, "\u0DD9\u0DDC"), (0xDDF, "\u0DD9\u0DDE"), (0xF72, "\u0F71\u0F73"),
  (0xF74, "\u0F71\u0F75"), (0xF80, "\u0FB2\u0F76\u0FB3\u0F78\u0F71\u0F81"),
  (0xFB5, "ཀཀྵ\u0F90\u0FB9"),
  (0xFB7, "གགྷཌཌྷདདྷབབྷཛཛྷ\u0F92\u0F93\u0F9C\u0F9D\u0FA1\u0FA2\u0FA6\u0FA7\u0FAB\u0FAC"), (0x102E, "ဥဦ"),
  (0x1B35, "ᬅᬆᬇᬈᬉᬊᬋᬌᬍᬎᬑᬒ\u1B3A\u1B3B\u1B3C\u1B3D\u1B3E\u1B40\u1B3F\u1B41\u1B42\u1B43"),
  (0x3099, "かがきぎくぐけげこごさざしじすずせぜそぞただちぢつづてでとどはばひびふぶへべほぼうゔゝゞカガキギクグケゲコゴサザシジスズセゼソゾタダチヂツヅテデトドハバヒビフブ"),
  (0x3099, "ヘベホボウヴワヷヰヸヱヹヲヺヽヾ"), (0x309A, "はぱひぴふぷへぺほぽハパヒピフプヘペホポ"), (0x110BA, "𑂙𑂚𑂛𑂜𑂥𑂫"),
  (0x11127, "𑄱𑄮𑄲𑄯"), (0x1133E, "𑍇𑍋"), (0x11357, "𑍇𑍌"), (0x114B0, "𑒹𑒼"), (0x114BA, "𑒹𑒻"),
  (0x114BD, "𑒹𑒾"), (0x115AF, "𑖸𑖺𑖹𑖻"), (0x11930, "𑤵𑤸"), (0x1D165, "𝅗𝅗𝅥𝅘𝅘𝅥𝆹𝆹𝅥𝆺𝆺𝅥"), (0x1D16E, "𝅘𝅥𝅘𝅥𝅮𝆹𝅥𝆹𝅥𝅮𝆺𝅥𝆺𝅥𝅮"),
  (0x1D16F, "𝅘𝅥𝅘𝅥𝅯𝆹𝅥𝆹𝅥𝅯𝆺𝅥𝆺𝅥𝅯"), (0x1D170, "𝅘𝅥𝅘𝅥𝅰"), (0x1D171, "𝅘𝅥𝅘𝅥𝅱"), (0x1D172, "𝅘𝅥𝅘𝅥𝅲")]

/-- Code points that are not put together again from the pair they are the same as. -/
def uncomposed : Array Nat := #[
  0x344, 0x958, 0x959, 0x95A, 0x95B, 0x95C, 0x95D, 0x95E, 0x95F, 0x9DC, 0x9DD, 0x9DF, 0xA33,
  0xA36, 0xA59, 0xA5A, 0xA5B, 0xA5E, 0xB5C, 0xB5D, 0xF43, 0xF4D, 0xF52, 0xF57, 0xF5C, 0xF69,
  0xF73, 0xF75, 0xF76, 0xF78, 0xF81, 0xF93, 0xF9D, 0xFA2, 0xFA7, 0xFAC, 0xFB9, 0x2ADC, 0xFB1D,
  0xFB1F, 0xFB2A, 0xFB2B, 0xFB2C, 0xFB2D, 0xFB2E, 0xFB2F, 0xFB30, 0xFB31, 0xFB32, 0xFB33, 0xFB34,
  0xFB35, 0xFB36, 0xFB38, 0xFB39, 0xFB3A, 0xFB3B, 0xFB3C, 0xFB3E, 0xFB40, 0xFB41, 0xFB43, 0xFB44,
  0xFB46, 0xFB47, 0xFB48, 0xFB49, 0xFB4A, 0xFB4B, 0xFB4C, 0xFB4D, 0xFB4E, 0x1D15E, 0x1D15F,
  0x1D160, 0x1D161, 0x1D162, 0x1D163, 0x1D164, 0x1D1BB, 0x1D1BC, 0x1D1BD, 0x1D1BE, 0x1D1BF,
  0x1D1C0]

/-- The one code point that `n` is the same as. -/
def single? (n : Nat) : Option Nat :=
  singleDecompositions.findSome? fun (first, others) =>
    if first ≤ n then others.toList[n - first]?.map Char.toNat else none

/-- The characters of a text two by two, as code points. -/
def twoByTwo : List Char → List (Nat × Nat)
  | a :: b :: rest => (a.toNat, b.toNat) :: twoByTwo rest
  | _ => []

/-- The pair that `n` is the same as. -/
def pair? (n : Nat) : Option (Nat × Nat) :=
  pairDecompositions.findSome? fun (second, row) =>
    ((twoByTwo row.toList).find? (·.2 == n)).map fun (first, _) => (first, second)

/-- The code point that is the same as a pair and is put together from it. -/
def whole? (a b : Nat) : Option Nat :=
  pairDecompositions.findSome? fun (second, row) =>
    if second = b then
      ((twoByTwo row.toList).find? fun (first, n) => first == a && !uncomposed.contains n).map (·.2)
    else none

end PageScript.Text
