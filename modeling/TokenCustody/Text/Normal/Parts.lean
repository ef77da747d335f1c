/-
TokenCustody.Text.Normal.Parts — what characters are made of.

Many characters can be written in two ways, as one character or as a
letter and its marks. Some others are second copies of a character.
Both make no difference to the text. `takenApart` gives the longest way
of writing a character, and `joined?` puts two characters together that
can be written as one.

Some characters are only taken apart and never put together: copies,
and the joined characters of scripts that are better written in parts.
The syllables of Hangul are not listed, because they are computed.
-/

namespace TokenCustody.Text.Normal

/-! ## Copies -/

/-- A stretch of copies, and the characters they are copies of. -/
structure Copies where
  first : Nat
  /-- One character for each copy. -/
  copied : String

/-- All copies. -/
def copies : List Copies := [
  ⟨0x340, "\u0300\u0301"⟩, ⟨0x343, "\u0313"⟩, ⟨0x374, "ʹ"⟩, ⟨0x37E, ";"⟩,
  ⟨0x387, "·"⟩, ⟨0x1F71, "ά"⟩, ⟨0x1F73, "έ"⟩, ⟨0x1F75, "ή"⟩, ⟨0x1F77, "ί"⟩,
  ⟨0x1F79, "ό"⟩, ⟨0x1F7B, "ύ"⟩, ⟨0x1F7D, "ώ"⟩, ⟨0x1FBB, "Ά"⟩, ⟨0x1FBE, "ι"⟩,
  ⟨0x1FC9, "Έ"⟩, ⟨0x1FCB, "Ή"⟩, ⟨0x1FD3, "ΐ"⟩, ⟨0x1FDB, "Ί"⟩, ⟨0x1FE3, "ΰ"⟩,
  ⟨0x1FEB, "Ύ"⟩, ⟨0x1FEE, "΅`"⟩, ⟨0x1FF9, "Ό"⟩, ⟨0x1FFB, "Ώ"⟩,
  ⟨0x1FFD, "´"⟩, ⟨0x2000, "\u2002\u2003"⟩, ⟨0x2126, "Ω"⟩, ⟨0x212A, "KÅ"⟩,
  ⟨0x2329, "〈〉"⟩, ⟨0xF900, "豈更車賈滑串句龜龜契金喇奈懶癩羅蘿螺裸邏樂洛烙珞落酪駱亂卵欄爛蘭鸞嵐濫藍襤拉臘蠟"⟩,
  ⟨0xF928, "廊朗浪狼郎來冷勞擄櫓爐盧老蘆虜路露魯鷺碌祿綠菉錄鹿論壟弄籠聾牢磊賂雷壘屢樓淚漏累"⟩,
  ⟨0xF950, "縷陋勒肋凜凌稜綾菱陵讀拏樂諾丹寧怒率異北磻便復不泌數索參塞省葉說殺辰沈拾若掠略亮"⟩,
  ⟨0xF978, "兩凉梁糧良諒量勵呂女廬旅濾礪閭驪麗黎力曆歷轢年憐戀撚漣煉璉秊練聯輦蓮連鍊列劣咽烈"⟩,
  ⟨0xF9A0, "裂說廉念捻殮簾獵令囹寧嶺怜玲瑩羚聆鈴零靈領例禮醴隸惡了僚寮尿料樂燎療蓼遼龍暈阮劉"⟩,
  ⟨0xF9C8, "杻柳流溜琉留硫紐類六戮陸倫崙淪輪律慄栗率隆利吏履易李梨泥理痢罹裏裡里離匿溺吝燐璘"⟩,
  ⟨0xF9F0, "藺隣鱗麟林淋臨立笠粒狀炙識什茶刺切度拓糖宅洞暴輻行降見廓兀嗀"⟩, ⟨0xFA10, "塚"⟩, ⟨0xFA12, "晴"⟩,
  ⟨0xFA15, "凞猪益礼神祥福靖精羽"⟩, ⟨0xFA20, "蘒"⟩, ⟨0xFA22, "諸"⟩, ⟨0xFA25, "逸都"⟩,
  ⟨0xFA2A, "飯飼館鶴郞隷侮僧免勉勤卑喝嘆器塀墨層屮悔慨憎懲敏既暑梅海渚漢煮爫琢碑社祉祈祐祖祝"⟩,
  ⟨0xFA52, "禍禎穀突節練縉繁署者臭艹艹著褐視謁謹賓贈辶逸難響頻恵𤋮舘"⟩,
  ⟨0xFA70, "並况全侀充冀勇勺喝啕喙嗢塚墳奄奔婢嬨廒廙彩徭惘慎愈憎慠懲戴揄搜摒敖晴朗望杖歹殺流"⟩,
  ⟨0xFA98, "滛滋漢瀞煮瞧爵犯猪瑱甆画瘝瘟益盛直睊着磌窱節类絛練缾者荒華蝹襁覆視調諸請謁諾諭謹"⟩,
  ⟨0xFAC0, "變贈輸遲醙鉶陼難靖韛響頋頻鬒龜𢡊𢡄𣏕㮝䀘䀹𥉉𥳐𧻓齃龎"⟩,
  ⟨0x2F800, "丽丸乁𠄢你侮侻倂偺備僧像㒞𠘺免兔兤具𠔜㒹內再𠕋冗冤仌冬况𩇟凵刃㓟刻剆割"⟩,
  ⟨0x2F823, "剷㔕勇勉勤勺包匆北卉卑博即卽卿卿卿𠨬灰及叟𠭣叫叱吆咞吸呈周咢哶唐啓啣善善喙喫"⟩,
  ⟨0x2F849, "喳嗂圖嘆圗噑噴切壮城埴堍型堲報墬𡓤売壷夆多夢奢𡚨𡛪姬娛娧姘婦㛮㛼嬈嬾嬾𡧈"⟩,
  ⟨0x2F86D, "寃寘寧寳𡬘寿将当尢㞁屠屮峀岍𡷤嵃𡷦嵮嵫嵼巡巢㠯巽帨帽幩㡢𢆃㡼庰庳庶廊𪎒"⟩,
  ⟨0x2F890, "廾𢌱𢌱舁弢弢㣇𣊸𦇚形彫㣣徚忍志忹悁㤺㤜悔𢛔惇慈慌慎慌慺憎憲憤憯懞懲懶成"⟩,
  ⟨0x2F8B3, "戛扝抱拔捐𢬌挽拼捨掃揤𢯱搢揅掩㨮摩摾撝摷㩬敏敬𣀊旣書晉㬙暑㬈㫤冒冕最暜肭䏙"⟩,
  ⟨0x2F8D8, "朗望朡杞杓𣏃㭉柺枅桒梅𣑭梎栟椔㮝楂榣槪檨𣚣櫛㰘次𣢧歔㱎歲殟殺殻𣪍𡴋"⟩,
  ⟨0x2F8F9, "𣫺汎𣲼沿泍汧洖派海流浩浸涅𣴞洴港湮㴳滋滇𣻑淹潮𣽞𣾎濆瀹瀞瀛㶖灊災灷炭"⟩,
  ⟨0x2F91B, "𠔥煅𤉣熜𤎫爨爵牐𤘈犀犕𤜵𤠔獺王㺬玥㺸㺸瑇瑜瑱璅瓊㼛甤𤰶甾𤲒異𢆟"⟩,
  ⟨0x2F93A, "瘐𤾡𤾸𥁄㿼䀈直𥃳𥃲𥄙𥄳眞真真睊䀹瞋䁆䂖𥐝硎碌磌䃣𥘦祖𥚚𥛅福"⟩,
  ⟨0x2F957, "秫䄯穀穊穏𥥼𥪧𥪧竮䈂𥮫篆築䈧𥲀糒䊠糨糣紀𥾆絣䌁緇縂繅䌴𦈨𦉇䍙𦋙"⟩,
  ⟨0x2F976, "罺𦌾羕翺者𦓚𦔣聠𦖨聰𣍟䏕育脃䐋脾媵𦞧𦞵𣎓𣎜舁舄辞䑫芑芋芝劳花芳"⟩,
  ⟨0x2F995, "芽苦𦬼若茝荣莭茣莽菧著荓菊菌菜𦰶𦵫𦳕䔫蓱蓳蔖𧏊蕤𦼬䕝䕡𦾱𧃒䕫虐虜"⟩,
  ⟨0x2F9B5, "虧虩蚩蚈蜎蛢蝹蜨蝫螆䗗蟡蠁䗹衠衣𧙧裗裞䘵裺㒻𧢮𧥦䚾䛇誠諭變豕𧲨貫賁贛起"⟩,
  ⟨0x2F9D8, "𧼯𠠄跋趼跰𠣞軔輸𨗒𨗭邔郱鄑𨜮鄛鈸鋗鋘鉼鏹鐕𨯺開䦕閷𨵷䧦雃嶲霣𩅅"⟩,
  ⟨0x2F9F7, "𩈚䩮䩶韠𩐊䪲𩒖頋頋頩𩖶飢䬳餩馧駂駾䯎𩬰鬒鱀鳽䳎䳭鵧𪃎䳸𪄅𪈎𪊑麻"⟩, ⟨0x2FA16, "䵖黹黾鼅鼏鼖鼻𪘀"⟩]

/-- The character that a character is a copy of. -/
def copied? (c : Char) : Option Char :=
  copies.findSome? fun k =>
    if k.first ≤ c.toNat then k.copied.toList[c.toNat - k.first]? else none

/-! ## Pairs -/

/-- A character and its two parts: another character and what is added to it. -/
structure Pair where
  whole : Nat
  left : Nat
  right : Nat

/-- The characters that are taken apart and put together. -/
def pairs : List Pair := [
  ⟨0xC0, 0x41, 0x300⟩, ⟨0xC1, 0x41, 0x301⟩, ⟨0xC2, 0x41, 0x302⟩, ⟨0xC3, 0x41, 0x303⟩,
  ⟨0xC4, 0x41, 0x308⟩, ⟨0xC5, 0x41, 0x30A⟩, ⟨0xC7, 0x43, 0x327⟩, ⟨0xC8, 0x45, 0x300⟩,
  ⟨0xC9, 0x45, 0x301⟩, ⟨0xCA, 0x45, 0x302⟩, ⟨0xCB, 0x45, 0x308⟩, ⟨0xCC, 0x49, 0x300⟩,
  ⟨0xCD, 0x49, 0x301⟩, ⟨0xCE, 0x49, 0x302⟩, ⟨0xCF, 0x49, 0x308⟩, ⟨0xD1, 0x4E, 0x303⟩,
  ⟨0xD2, 0x4F, 0x300⟩, ⟨0xD3, 0x4F, 0x301⟩, ⟨0xD4, 0x4F, 0x302⟩, ⟨0xD5, 0x4F, 0x303⟩,
  ⟨0xD6, 0x4F, 0x308⟩, ⟨0xD9, 0x55, 0x300⟩, ⟨0xDA, 0x55, 0x301⟩, ⟨0xDB, 0x55, 0x302⟩,
  ⟨0xDC, 0x55, 0x308⟩, ⟨0xDD, 0x59, 0x301⟩, ⟨0xE0, 0x61, 0x300⟩, ⟨0xE1, 0x61, 0x301⟩,
  ⟨0xE2, 0x61, 0x302⟩, ⟨0xE3, 0x61, 0x303⟩, ⟨0xE4, 0x61, 0x308⟩, ⟨0xE5, 0x61, 0x30A⟩,
  ⟨0xE7, 0x63, 0x327⟩, ⟨0xE8, 0x65, 0x300⟩, ⟨0xE9, 0x65, 0x301⟩, ⟨0xEA, 0x65, 0x302⟩,
  ⟨0xEB, 0x65, 0x308⟩, ⟨0xEC, 0x69, 0x300⟩, ⟨0xED, 0x69, 0x301⟩, ⟨0xEE, 0x69, 0x302⟩,
  ⟨0xEF, 0x69, 0x308⟩, ⟨0xF1, 0x6E, 0x303⟩, ⟨0xF2, 0x6F, 0x300⟩, ⟨0xF3, 0x6F, 0x301⟩,
  ⟨0xF4, 0x6F, 0x302⟩, ⟨0xF5, 0x6F, 0x303⟩, ⟨0xF6, 0x6F, 0x308⟩, ⟨0xF9, 0x75, 0x300⟩,
  ⟨0xFA, 0x75, 0x301⟩, ⟨0xFB, 0x75, 0x302⟩, ⟨0xFC, 0x75, 0x308⟩, ⟨0xFD, 0x79, 0x301⟩,
  ⟨0xFF, 0x79, 0x308⟩, ⟨0x100, 0x41, 0x304⟩, ⟨0x101, 0x61, 0x304⟩, ⟨0x102, 0x41, 0x306⟩,
  ⟨0x103, 0x61, 0x306⟩, ⟨0x104, 0x41, 0x328⟩, ⟨0x105, 0x61, 0x328⟩, ⟨0x106, 0x43, 0x301⟩,
  ⟨0x107, 0x63, 0x301⟩, ⟨0x108, 0x43, 0x302⟩, ⟨0x109, 0x63, 0x302⟩, ⟨0x10A, 0x43, 0x307⟩,
  ⟨0x10B, 0x63, 0x307⟩, ⟨0x10C, 0x43, 0x30C⟩, ⟨0x10D, 0x63, 0x30C⟩, ⟨0x10E, 0x44, 0x30C⟩,
  ⟨0x10F, 0x64, 0x30C⟩, ⟨0x112, 0x45, 0x304⟩, ⟨0x113, 0x65, 0x304⟩, ⟨0x114, 0x45, 0x306⟩,
  ⟨0x115, 0x65, 0x306⟩, ⟨0x116, 0x45, 0x307⟩, ⟨0x117, 0x65, 0x307⟩, ⟨0x118, 0x45, 0x328⟩,
  ⟨0x119, 0x65, 0x328⟩, ⟨0x11A, 0x45, 0x30C⟩, ⟨0x11B, 0x65, 0x30C⟩, ⟨0x11C, 0x47, 0x302⟩,
  ⟨0x11D, 0x67, 0x302⟩, ⟨0x11E, 0x47, 0x306⟩, ⟨0x11F, 0x67, 0x306⟩, ⟨0x120, 0x47, 0x307⟩,
  ⟨0x121, 0x67, 0x307⟩, ⟨0x122, 0x47, 0x327⟩, ⟨0x123, 0x67, 0x327⟩, ⟨0x124, 0x48, 0x302⟩,
  ⟨0x125, 0x68, 0x302⟩, ⟨0x128, 0x49, 0x303⟩, ⟨0x129, 0x69, 0x303⟩, ⟨0x12A, 0x49, 0x304⟩,
  ⟨0x12B, 0x69, 0x304⟩, ⟨0x12C, 0x49, 0x306⟩, ⟨0x12D, 0x69, 0x306⟩, ⟨0x12E, 0x49, 0x328⟩,
  ⟨0x12F, 0x69, 0x328⟩, ⟨0x130, 0x49, 0x307⟩, ⟨0x134, 0x4A, 0x302⟩, ⟨0x135, 0x6A, 0x302⟩,
  ⟨0x136, 0x4B, 0x327⟩, ⟨0x137, 0x6B, 0x327⟩, ⟨0x139, 0x4C, 0x301⟩, ⟨0x13A, 0x6C, 0x301⟩,
  ⟨0x13B, 0x4C, 0x327⟩, ⟨0x13C, 0x6C, 0x327⟩, ⟨0x13D, 0x4C, 0x30C⟩, ⟨0x13E, 0x6C, 0x30C⟩,
  ⟨0x143, 0x4E, 0x301⟩, ⟨0x144, 0x6E, 0x301⟩, ⟨0x145, 0x4E, 0x327⟩, ⟨0x146, 0x6E, 0x327⟩,
  ⟨0x147, 0x4E, 0x30C⟩, ⟨0x148, 0x6E, 0x30C⟩, ⟨0x14C, 0x4F, 0x304⟩, ⟨0x14D, 0x6F, 0x304⟩,
  ⟨0x14E, 0x4F, 0x306⟩, ⟨0x14F, 0x6F, 0x306⟩, ⟨0x150, 0x4F, 0x30B⟩, ⟨0x151, 0x6F, 0x30B⟩,
  ⟨0x154, 0x52, 0x301⟩, ⟨0x155, 0x72, 0x301⟩, ⟨0x156, 0x52, 0x327⟩, ⟨0x157, 0x72, 0x327⟩,
  ⟨0x158, 0x52, 0x30C⟩, ⟨0x159, 0x72, 0x30C⟩, ⟨0x15A, 0x53, 0x301⟩, ⟨0x15B, 0x73, 0x301⟩,
  ⟨0x15C, 0x53, 0x302⟩, ⟨0x15D, 0x73, 0x302⟩, ⟨0x15E, 0x53, 0x327⟩, ⟨0x15F, 0x73, 0x327⟩,
  ⟨0x160, 0x53, 0x30C⟩, ⟨0x161, 0x73, 0x30C⟩, ⟨0x162, 0x54, 0x327⟩, ⟨0x163, 0x74, 0x327⟩,
  ⟨0x164, 0x54, 0x30C⟩, ⟨0x165, 0x74, 0x30C⟩, ⟨0x168, 0x55, 0x303⟩, ⟨0x169, 0x75, 0x303⟩,
  ⟨0x16A, 0x55, 0x304⟩, ⟨0x16B, 0x75, 0x304⟩, ⟨0x16C, 0x55, 0x306⟩, ⟨0x16D, 0x75, 0x306⟩,
  ⟨0x16E, 0x55, 0x30A⟩, ⟨0x16F, 0x75, 0x30A⟩, ⟨0x170, 0x55, 0x30B⟩, ⟨0x171, 0x75, 0x30B⟩,
  ⟨0x172, 0x55, 0x328⟩, ⟨0x173, 0x75, 0x328⟩, ⟨0x174, 0x57, 0x302⟩, ⟨0x175, 0x77, 0x302⟩,
  ⟨0x176, 0x59, 0x302⟩, ⟨0x177, 0x79, 0x302⟩, ⟨0x178, 0x59, 0x308⟩, ⟨0x179, 0x5A, 0x301⟩,
  ⟨0x17A, 0x7A, 0x301⟩, ⟨0x17B, 0x5A, 0x307⟩, ⟨0x17C, 0x7A, 0x307⟩, ⟨0x17D, 0x5A, 0x30C⟩,
  ⟨0x17E, 0x7A, 0x30C⟩, ⟨0x1A0, 0x4F, 0x31B⟩, ⟨0x1A1, 0x6F, 0x31B⟩, ⟨0x1AF, 0x55, 0x31B⟩,
  ⟨0x1B0, 0x75, 0x31B⟩, ⟨0x1CD, 0x41, 0x30C⟩, ⟨0x1CE, 0x61, 0x30C⟩, ⟨0x1CF, 0x49, 0x30C⟩,
  ⟨0x1D0, 0x69, 0x30C⟩, ⟨0x1D1, 0x4F, 0x30C⟩, ⟨0x1D2, 0x6F, 0x30C⟩, ⟨0x1D3, 0x55, 0x30C⟩,
  ⟨0x1D4, 0x75, 0x30C⟩, ⟨0x1D5, 0xDC, 0x304⟩, ⟨0x1D6, 0xFC, 0x304⟩, ⟨0x1D7, 0xDC, 0x301⟩,
  ⟨0x1D8, 0xFC, 0x301⟩, ⟨0x1D9, 0xDC, 0x30C⟩, ⟨0x1DA, 0xFC, 0x30C⟩, ⟨0x1DB, 0xDC, 0x300⟩,
  ⟨0x1DC, 0xFC, 0x300⟩, ⟨0x1DE, 0xC4, 0x304⟩, ⟨0x1DF, 0xE4, 0x304⟩, ⟨0x1E0, 0x226, 0x304⟩,
  ⟨0x1E1, 0x227, 0x304⟩, ⟨0x1E2, 0xC6, 0x304⟩, ⟨0x1E3, 0xE6, 0x304⟩, ⟨0x1E6, 0x47, 0x30C⟩,
  ⟨0x1E7, 0x67, 0x30C⟩, ⟨0x1E8, 0x4B, 0x30C⟩, ⟨0x1E9, 0x6B, 0x30C⟩, ⟨0x1EA, 0x4F, 0x328⟩,
  ⟨0x1EB, 0x6F, 0x328⟩, ⟨0x1EC, 0x1EA, 0x304⟩, ⟨0x1ED, 0x1EB, 0x304⟩, ⟨0x1EE, 0x1B7, 0x30C⟩,
  ⟨0x1EF, 0x292, 0x30C⟩, ⟨0x1F0, 0x6A, 0x30C⟩, ⟨0x1F4, 0x47, 0x301⟩, ⟨0x1F5, 0x67, 0x301⟩,
  ⟨0x1F8, 0x4E, 0x300⟩, ⟨0x1F9, 0x6E, 0x300⟩, ⟨0x1FA, 0xC5, 0x301⟩, ⟨0x1FB, 0xE5, 0x301⟩,
  ⟨0x1FC, 0xC6, 0x301⟩, ⟨0x1FD, 0xE6, 0x301⟩, ⟨0x1FE, 0xD8, 0x301⟩, ⟨0x1FF, 0xF8, 0x301⟩,
  ⟨0x200, 0x41, 0x30F⟩, ⟨0x201, 0x61, 0x30F⟩, ⟨0x202, 0x41, 0x311⟩, ⟨0x203, 0x61, 0x311⟩,
  ⟨0x204, 0x45, 0x30F⟩, ⟨0x205, 0x65, 0x30F⟩, ⟨0x206, 0x45, 0x311⟩, ⟨0x207, 0x65, 0x311⟩,
  ⟨0x208, 0x49, 0x30F⟩, ⟨0x209, 0x69, 0x30F⟩, ⟨0x20A, 0x49, 0x311⟩, ⟨0x20B, 0x69, 0x311⟩,
  ⟨0x20C, 0x4F, 0x30F⟩, ⟨0x20D, 0x6F, 0x30F⟩, ⟨0x20E, 0x4F, 0x311⟩, ⟨0x20F, 0x6F, 0x311⟩,
  ⟨0x210, 0x52, 0x30F⟩, ⟨0x211, 0x72, 0x30F⟩, ⟨0x212, 0x52, 0x311⟩, ⟨0x213, 0x72, 0x311⟩,
  ⟨0x214, 0x55, 0x30F⟩, ⟨0x215, 0x75, 0x30F⟩, ⟨0x216, 0x55, 0x311⟩, ⟨0x217, 0x75, 0x311⟩,
  ⟨0x218, 0x53, 0x326⟩, ⟨0x219, 0x73, 0x326⟩, ⟨0x21A, 0x54, 0x326⟩, ⟨0x21B, 0x74, 0x326⟩,
  ⟨0x21E, 0x48, 0x30C⟩, ⟨0x21F, 0x68, 0x30C⟩, ⟨0x226, 0x41, 0x307⟩, ⟨0x227, 0x61, 0x307⟩,
  ⟨0x228, 0x45, 0x327⟩, ⟨0x229, 0x65, 0x327⟩, ⟨0x22A, 0xD6, 0x304⟩, ⟨0x22B, 0xF6, 0x304⟩,
  ⟨0x22C, 0xD5, 0x304⟩, ⟨0x22D, 0xF5, 0x304⟩, ⟨0x22E, 0x4F, 0x307⟩, ⟨0x22F, 0x6F, 0x307⟩,
  ⟨0x230, 0x22E, 0x304⟩, ⟨0x231, 0x22F, 0x304⟩, ⟨0x232, 0x59, 0x304⟩, ⟨0x233, 0x79, 0x304⟩,
  ⟨0x385, 0xA8, 0x301⟩, ⟨0x386, 0x391, 0x301⟩, ⟨0x388, 0x395, 0x301⟩, ⟨0x389, 0x397, 0x301⟩,
  ⟨0x38A, 0x399, 0x301⟩, ⟨0x38C, 0x39F, 0x301⟩, ⟨0x38E, 0x3A5, 0x301⟩, ⟨0x38F, 0x3A9, 0x301⟩,
  ⟨0x390, 0x3CA, 0x301⟩, ⟨0x3AA, 0x399, 0x308⟩, ⟨0x3AB, 0x3A5, 0x308⟩, ⟨0x3AC, 0x3B1, 0x301⟩,
  ⟨0x3AD, 0x3B5, 0x301⟩, ⟨0x3AE, 0x3B7, 0x301⟩, ⟨0x3AF, 0x3B9, 0x301⟩, ⟨0x3B0, 0x3CB, 0x301⟩,
  ⟨0x3CA, 0x3B9, 0x308⟩, ⟨0x3CB, 0x3C5, 0x308⟩, ⟨0x3CC, 0x3BF, 0x301⟩, ⟨0x3CD, 0x3C5, 0x301⟩,
  ⟨0x3CE, 0x3C9, 0x301⟩, ⟨0x3D3, 0x3D2, 0x301⟩, ⟨0x3D4, 0x3D2, 0x308⟩, ⟨0x400, 0x415, 0x300⟩,
  ⟨0x401, 0x415, 0x308⟩, ⟨0x403, 0x413, 0x301⟩, ⟨0x407, 0x406, 0x308⟩, ⟨0x40C, 0x41A, 0x301⟩,
  ⟨0x40D, 0x418, 0x300⟩, ⟨0x40E, 0x423, 0x306⟩, ⟨0x419, 0x418, 0x306⟩, ⟨0x439, 0x438, 0x306⟩,
  ⟨0x450, 0x435, 0x300⟩, ⟨0x451, 0x435, 0x308⟩, ⟨0x453, 0x433, 0x301⟩, ⟨0x457, 0x456, 0x308⟩,
  ⟨0x45C, 0x43A, 0x301⟩, ⟨0x45D, 0x438, 0x300⟩, ⟨0x45E, 0x443, 0x306⟩, ⟨0x476, 0x474, 0x30F⟩,
  ⟨0x477, 0x475, 0x30F⟩, ⟨0x4C1, 0x416, 0x306⟩, ⟨0x4C2, 0x436, 0x306⟩, ⟨0x4D0, 0x410, 0x306⟩,
  ⟨0x4D1, 0x430, 0x306⟩, ⟨0x4D2, 0x410, 0x308⟩, ⟨0x4D3, 0x430, 0x308⟩, ⟨0x4D6, 0x415, 0x306⟩,
  ⟨0x4D7, 0x435, 0x306⟩, ⟨0x4DA, 0x4D8, 0x308⟩, ⟨0x4DB, 0x4D9, 0x308⟩, ⟨0x4DC, 0x416, 0x308⟩,
  ⟨0x4DD, 0x436, 0x308⟩, ⟨0x4DE, 0x417, 0x308⟩, ⟨0x4DF, 0x437, 0x308⟩, ⟨0x4E2, 0x418, 0x304⟩,
  ⟨0x4E3, 0x438, 0x304⟩, ⟨0x4E4, 0x418, 0x308⟩, ⟨0x4E5, 0x438, 0x308⟩, ⟨0x4E6, 0x41E, 0x308⟩,
  ⟨0x4E7, 0x43E, 0x308⟩, ⟨0x4EA, 0x4E8, 0x308⟩, ⟨0x4EB, 0x4E9, 0x308⟩, ⟨0x4EC, 0x42D, 0x308⟩,
  ⟨0x4ED, 0x44D, 0x308⟩, ⟨0x4EE, 0x423, 0x304⟩, ⟨0x4EF, 0x443, 0x304⟩, ⟨0x4F0, 0x423, 0x308⟩,
  ⟨0x4F1, 0x443, 0x308⟩, ⟨0x4F2, 0x423, 0x30B⟩, ⟨0x4F3, 0x443, 0x30B⟩, ⟨0x4F4, 0x427, 0x308⟩,
  ⟨0x4F5, 0x447, 0x308⟩, ⟨0x4F8, 0x42B, 0x308⟩, ⟨0x4F9, 0x44B, 0x308⟩, ⟨0x622, 0x627, 0x653⟩,
  ⟨0x623, 0x627, 0x654⟩, ⟨0x624, 0x648, 0x654⟩, ⟨0x625, 0x627, 0x655⟩, ⟨0x626, 0x64A, 0x654⟩,
  ⟨0x6C0, 0x6D5, 0x654⟩, ⟨0x6C2, 0x6C1, 0x654⟩, ⟨0x6D3, 0x6D2, 0x654⟩, ⟨0x929, 0x928, 0x93C⟩,
  ⟨0x931, 0x930, 0x93C⟩, ⟨0x934, 0x933, 0x93C⟩, ⟨0x9CB, 0x9C7, 0x9BE⟩, ⟨0x9CC, 0x9C7, 0x9D7⟩,
  ⟨0xB48, 0xB47, 0xB56⟩, ⟨0xB4B, 0xB47, 0xB3E⟩, ⟨0xB4C, 0xB47, 0xB57⟩, ⟨0xB94, 0xB92, 0xBD7⟩,
  ⟨0xBCA, 0xBC6, 0xBBE⟩, ⟨0xBCB, 0xBC7, 0xBBE⟩, ⟨0xBCC, 0xBC6, 0xBD7⟩, ⟨0xC48, 0xC46, 0xC56⟩,
  ⟨0xCC0, 0xCBF, 0xCD5⟩, ⟨0xCC7, 0xCC6, 0xCD5⟩, ⟨0xCC8, 0xCC6, 0xCD6⟩, ⟨0xCCA, 0xCC6, 0xCC2⟩,
  ⟨0xCCB, 0xCCA, 0xCD5⟩, ⟨0xD4A, 0xD46, 0xD3E⟩, ⟨0xD4B, 0xD47, 0xD3E⟩, ⟨0xD4C, 0xD46, 0xD57⟩,
  ⟨0xDDA, 0xDD9, 0xDCA⟩, ⟨0xDDC, 0xDD9, 0xDCF⟩, ⟨0xDDD, 0xDDC, 0xDCA⟩, ⟨0xDDE, 0xDD9, 0xDDF⟩,
  ⟨0x1026, 0x1025, 0x102E⟩, ⟨0x1B06, 0x1B05, 0x1B35⟩, ⟨0x1B08, 0x1B07, 0x1B35⟩,
  ⟨0x1B0A, 0x1B09, 0x1B35⟩, ⟨0x1B0C, 0x1B0B, 0x1B35⟩, ⟨0x1B0E, 0x1B0D, 0x1B35⟩,
  ⟨0x1B12, 0x1B11, 0x1B35⟩, ⟨0x1B3B, 0x1B3A, 0x1B35⟩, ⟨0x1B3D, 0x1B3C, 0x1B35⟩,
  ⟨0x1B40, 0x1B3E, 0x1B35⟩, ⟨0x1B41, 0x1B3F, 0x1B35⟩, ⟨0x1B43, 0x1B42, 0x1B35⟩,
  ⟨0x1E00, 0x41, 0x325⟩, ⟨0x1E01, 0x61, 0x325⟩, ⟨0x1E02, 0x42, 0x307⟩, ⟨0x1E03, 0x62, 0x307⟩,
  ⟨0x1E04, 0x42, 0x323⟩, ⟨0x1E05, 0x62, 0x323⟩, ⟨0x1E06, 0x42, 0x331⟩, ⟨0x1E07, 0x62, 0x331⟩,
  ⟨0x1E08, 0xC7, 0x301⟩, ⟨0x1E09, 0xE7, 0x301⟩, ⟨0x1E0A, 0x44, 0x307⟩, ⟨0x1E0B, 0x64, 0x307⟩,
  ⟨0x1E0C, 0x44, 0x323⟩, ⟨0x1E0D, 0x64, 0x323⟩, ⟨0x1E0E, 0x44, 0x331⟩, ⟨0x1E0F, 0x64, 0x331⟩,
  ⟨0x1E10, 0x44, 0x327⟩, ⟨0x1E11, 0x64, 0x327⟩, ⟨0x1E12, 0x44, 0x32D⟩, ⟨0x1E13, 0x64, 0x32D⟩,
  ⟨0x1E14, 0x112, 0x300⟩, ⟨0x1E15, 0x113, 0x300⟩, ⟨0x1E16, 0x112, 0x301⟩, ⟨0x1E17, 0x113, 0x301⟩,
  ⟨0x1E18, 0x45, 0x32D⟩, ⟨0x1E19, 0x65, 0x32D⟩, ⟨0x1E1A, 0x45, 0x330⟩, ⟨0x1E1B, 0x65, 0x330⟩,
  ⟨0x1E1C, 0x228, 0x306⟩, ⟨0x1E1D, 0x229, 0x306⟩, ⟨0x1E1E, 0x46, 0x307⟩, ⟨0x1E1F, 0x66, 0x307⟩,
  ⟨0x1E20, 0x47, 0x304⟩, ⟨0x1E21, 0x67, 0x304⟩, ⟨0x1E22, 0x48, 0x307⟩, ⟨0x1E23, 0x68, 0x307⟩,
  ⟨0x1E24, 0x48, 0x323⟩, ⟨0x1E25, 0x68, 0x323⟩, ⟨0x1E26, 0x48, 0x308⟩, ⟨0x1E27, 0x68, 0x308⟩,
  ⟨0x1E28, 0x48, 0x327⟩, ⟨0x1E29, 0x68, 0x327⟩, ⟨0x1E2A, 0x48, 0x32E⟩, ⟨0x1E2B, 0x68, 0x32E⟩,
  ⟨0x1E2C, 0x49, 0x330⟩, ⟨0x1E2D, 0x69, 0x330⟩, ⟨0x1E2E, 0xCF, 0x301⟩, ⟨0x1E2F, 0xEF, 0x301⟩,
  ⟨0x1E30, 0x4B, 0x301⟩, ⟨0x1E31, 0x6B, 0x301⟩, ⟨0x1E32, 0x4B, 0x323⟩, ⟨0x1E33, 0x6B, 0x323⟩,
  ⟨0x1E34, 0x4B, 0x331⟩, ⟨0x1E35, 0x6B, 0x331⟩, ⟨0x1E36, 0x4C, 0x323⟩, ⟨0x1E37, 0x6C, 0x323⟩,
  ⟨0x1E38, 0x1E36, 0x304⟩, ⟨0x1E39, 0x1E37, 0x304⟩, ⟨0x1E3A, 0x4C, 0x331⟩, ⟨0x1E3B, 0x6C, 0x331⟩,
  ⟨0x1E3C, 0x4C, 0x32D⟩, ⟨0x1E3D, 0x6C, 0x32D⟩, ⟨0x1E3E, 0x4D, 0x301⟩, ⟨0x1E3F, 0x6D, 0x301⟩,
  ⟨0x1E40, 0x4D, 0x307⟩, ⟨0x1E41, 0x6D, 0x307⟩, ⟨0x1E42, 0x4D, 0x323⟩, ⟨0x1E43, 0x6D, 0x323⟩,
  ⟨0x1E44, 0x4E, 0x307⟩, ⟨0x1E45, 0x6E, 0x307⟩, ⟨0x1E46, 0x4E, 0x323⟩, ⟨0x1E47, 0x6E, 0x323⟩,
  ⟨0x1E48, 0x4E, 0x331⟩, ⟨0x1E49, 0x6E, 0x331⟩, ⟨0x1E4A, 0x4E, 0x32D⟩, ⟨0x1E4B, 0x6E, 0x32D⟩,
  ⟨0x1E4C, 0xD5, 0x301⟩, ⟨0x1E4D, 0xF5, 0x301⟩, ⟨0x1E4E, 0xD5, 0x308⟩, ⟨0x1E4F, 0xF5, 0x308⟩,
  ⟨0x1E50, 0x14C, 0x300⟩, ⟨0x1E51, 0x14D, 0x300⟩, ⟨0x1E52, 0x14C, 0x301⟩, ⟨0x1E53, 0x14D, 0x301⟩,
  ⟨0x1E54, 0x50, 0x301⟩, ⟨0x1E55, 0x70, 0x301⟩, ⟨0x1E56, 0x50, 0x307⟩, ⟨0x1E57, 0x70, 0x307⟩,
  ⟨0x1E58, 0x52, 0x307⟩, ⟨0x1E59, 0x72, 0x307⟩, ⟨0x1E5A, 0x52, 0x323⟩, ⟨0x1E5B, 0x72, 0x323⟩,
  ⟨0x1E5C, 0x1E5A, 0x304⟩, ⟨0x1E5D, 0x1E5B, 0x304⟩, ⟨0x1E5E, 0x52, 0x331⟩, ⟨0x1E5F, 0x72, 0x331⟩,
  ⟨0x1E60, 0x53, 0x307⟩, ⟨0x1E61, 0x73, 0x307⟩, ⟨0x1E62, 0x53, 0x323⟩, ⟨0x1E63, 0x73, 0x323⟩,
  ⟨0x1E64, 0x15A, 0x307⟩, ⟨0x1E65, 0x15B, 0x307⟩, ⟨0x1E66, 0x160, 0x307⟩, ⟨0x1E67, 0x161, 0x307⟩,
  ⟨0x1E68, 0x1E62, 0x307⟩, ⟨0x1E69, 0x1E63, 0x307⟩, ⟨0x1E6A, 0x54, 0x307⟩, ⟨0x1E6B, 0x74, 0x307⟩,
  ⟨0x1E6C, 0x54, 0x323⟩, ⟨0x1E6D, 0x74, 0x323⟩, ⟨0x1E6E, 0x54, 0x331⟩, ⟨0x1E6F, 0x74, 0x331⟩,
  ⟨0x1E70, 0x54, 0x32D⟩, ⟨0x1E71, 0x74, 0x32D⟩, ⟨0x1E72, 0x55, 0x324⟩, ⟨0x1E73, 0x75, 0x324⟩,
  ⟨0x1E74, 0x55, 0x330⟩, ⟨0x1E75, 0x75, 0x330⟩, ⟨0x1E76, 0x55, 0x32D⟩, ⟨0x1E77, 0x75, 0x32D⟩,
  ⟨0x1E78, 0x168, 0x301⟩, ⟨0x1E79, 0x169, 0x301⟩, ⟨0x1E7A, 0x16A, 0x308⟩, ⟨0x1E7B, 0x16B, 0x308⟩,
  ⟨0x1E7C, 0x56, 0x303⟩, ⟨0x1E7D, 0x76, 0x303⟩, ⟨0x1E7E, 0x56, 0x323⟩, ⟨0x1E7F, 0x76, 0x323⟩,
  ⟨0x1E80, 0x57, 0x300⟩, ⟨0x1E81, 0x77, 0x300⟩, ⟨0x1E82, 0x57, 0x301⟩, ⟨0x1E83, 0x77, 0x301⟩,
  ⟨0x1E84, 0x57, 0x308⟩, ⟨0x1E85, 0x77, 0x308⟩, ⟨0x1E86, 0x57, 0x307⟩, ⟨0x1E87, 0x77, 0x307⟩,
  ⟨0x1E88, 0x57, 0x323⟩, ⟨0x1E89, 0x77, 0x323⟩, ⟨0x1E8A, 0x58, 0x307⟩, ⟨0x1E8B, 0x78, 0x307⟩,
  ⟨0x1E8C, 0x58, 0x308⟩, ⟨0x1E8D, 0x78, 0x308⟩, ⟨0x1E8E, 0x59, 0x307⟩, ⟨0x1E8F, 0x79, 0x307⟩,
  ⟨0x1E90, 0x5A, 0x302⟩, ⟨0x1E91, 0x7A, 0x302⟩, ⟨0x1E92, 0x5A, 0x323⟩, ⟨0x1E93, 0x7A, 0x323⟩,
  ⟨0x1E94, 0x5A, 0x331⟩, ⟨0x1E95, 0x7A, 0x331⟩, ⟨0x1E96, 0x68, 0x331⟩, ⟨0x1E97, 0x74, 0x308⟩,
  ⟨0x1E98, 0x77, 0x30A⟩, ⟨0x1E99, 0x79, 0x30A⟩, ⟨0x1E9B, 0x17F, 0x307⟩, ⟨0x1EA0, 0x41, 0x323⟩,
  ⟨0x1EA1, 0x61, 0x323⟩, ⟨0x1EA2, 0x41, 0x309⟩, ⟨0x1EA3, 0x61, 0x309⟩, ⟨0x1EA4, 0xC2, 0x301⟩,
  ⟨0x1EA5, 0xE2, 0x301⟩, ⟨0x1EA6, 0xC2, 0x300⟩, ⟨0x1EA7, 0xE2, 0x300⟩, ⟨0x1EA8, 0xC2, 0x309⟩,
  ⟨0x1EA9, 0xE2, 0x309⟩, ⟨0x1EAA, 0xC2, 0x303⟩, ⟨0x1EAB, 0xE2, 0x303⟩, ⟨0x1EAC, 0x1EA0, 0x302⟩,
  ⟨0x1EAD, 0x1EA1, 0x302⟩, ⟨0x1EAE, 0x102, 0x301⟩, ⟨0x1EAF, 0x103, 0x301⟩, ⟨0x1EB0, 0x102, 0x300⟩,
  ⟨0x1EB1, 0x103, 0x300⟩, ⟨0x1EB2, 0x102, 0x309⟩, ⟨0x1EB3, 0x103, 0x309⟩, ⟨0x1EB4, 0x102, 0x303⟩,
  ⟨0x1EB5, 0x103, 0x303⟩, ⟨0x1EB6, 0x1EA0, 0x306⟩, ⟨0x1EB7, 0x1EA1, 0x306⟩, ⟨0x1EB8, 0x45, 0x323⟩,
  ⟨0x1EB9, 0x65, 0x323⟩, ⟨0x1EBA, 0x45, 0x309⟩, ⟨0x1EBB, 0x65, 0x309⟩, ⟨0x1EBC, 0x45, 0x303⟩,
  ⟨0x1EBD, 0x65, 0x303⟩, ⟨0x1EBE, 0xCA, 0x301⟩, ⟨0x1EBF, 0xEA, 0x301⟩, ⟨0x1EC0, 0xCA, 0x300⟩,
  ⟨0x1EC1, 0xEA, 0x300⟩, ⟨0x1EC2, 0xCA, 0x309⟩, ⟨0x1EC3, 0xEA, 0x309⟩, ⟨0x1EC4, 0xCA, 0x303⟩,
  ⟨0x1EC5, 0xEA, 0x303⟩, ⟨0x1EC6, 0x1EB8, 0x302⟩, ⟨0x1EC7, 0x1EB9, 0x302⟩, ⟨0x1EC8, 0x49, 0x309⟩,
  ⟨0x1EC9, 0x69, 0x309⟩, ⟨0x1ECA, 0x49, 0x323⟩, ⟨0x1ECB, 0x69, 0x323⟩, ⟨0x1ECC, 0x4F, 0x323⟩,
  ⟨0x1ECD, 0x6F, 0x323⟩, ⟨0x1ECE, 0x4F, 0x309⟩, ⟨0x1ECF, 0x6F, 0x309⟩, ⟨0x1ED0, 0xD4, 0x301⟩,
  ⟨0x1ED1, 0xF4, 0x301⟩, ⟨0x1ED2, 0xD4, 0x300⟩, ⟨0x1ED3, 0xF4, 0x300⟩, ⟨0x1ED4, 0xD4, 0x309⟩,
  ⟨0x1ED5, 0xF4, 0x309⟩, ⟨0x1ED6, 0xD4, 0x303⟩, ⟨0x1ED7, 0xF4, 0x303⟩, ⟨0x1ED8, 0x1ECC, 0x302⟩,
  ⟨0x1ED9, 0x1ECD, 0x302⟩, ⟨0x1EDA, 0x1A0, 0x301⟩, ⟨0x1EDB, 0x1A1, 0x301⟩, ⟨0x1EDC, 0x1A0, 0x300⟩,
  ⟨0x1EDD, 0x1A1, 0x300⟩, ⟨0x1EDE, 0x1A0, 0x309⟩, ⟨0x1EDF, 0x1A1, 0x309⟩, ⟨0x1EE0, 0x1A0, 0x303⟩,
  ⟨0x1EE1, 0x1A1, 0x303⟩, ⟨0x1EE2, 0x1A0, 0x323⟩, ⟨0x1EE3, 0x1A1, 0x323⟩, ⟨0x1EE4, 0x55, 0x323⟩,
  ⟨0x1EE5, 0x75, 0x323⟩, ⟨0x1EE6, 0x55, 0x309⟩, ⟨0x1EE7, 0x75, 0x309⟩, ⟨0x1EE8, 0x1AF, 0x301⟩,
  ⟨0x1EE9, 0x1B0, 0x301⟩, ⟨0x1EEA, 0x1AF, 0x300⟩, ⟨0x1EEB, 0x1B0, 0x300⟩, ⟨0x1EEC, 0x1AF, 0x309⟩,
  ⟨0x1EED, 0x1B0, 0x309⟩, ⟨0x1EEE, 0x1AF, 0x303⟩, ⟨0x1EEF, 0x1B0, 0x303⟩, ⟨0x1EF0, 0x1AF, 0x323⟩,
  ⟨0x1EF1, 0x1B0, 0x323⟩, ⟨0x1EF2, 0x59, 0x300⟩, ⟨0x1EF3, 0x79, 0x300⟩, ⟨0x1EF4, 0x59, 0x323⟩,
  ⟨0x1EF5, 0x79, 0x323⟩, ⟨0x1EF6, 0x59, 0x309⟩, ⟨0x1EF7, 0x79, 0x309⟩, ⟨0x1EF8, 0x59, 0x303⟩,
  ⟨0x1EF9, 0x79, 0x303⟩, ⟨0x1F00, 0x3B1, 0x313⟩, ⟨0x1F01, 0x3B1, 0x314⟩, ⟨0x1F02, 0x1F00, 0x300⟩,
  ⟨0x1F03, 0x1F01, 0x300⟩, ⟨0x1F04, 0x1F00, 0x301⟩, ⟨0x1F05, 0x1F01, 0x301⟩,
  ⟨0x1F06, 0x1F00, 0x342⟩, ⟨0x1F07, 0x1F01, 0x342⟩, ⟨0x1F08, 0x391, 0x313⟩,
  ⟨0x1F09, 0x391, 0x314⟩, ⟨0x1F0A, 0x1F08, 0x300⟩, ⟨0x1F0B, 0x1F09, 0x300⟩,
  ⟨0x1F0C, 0x1F08, 0x301⟩, ⟨0x1F0D, 0x1F09, 0x301⟩, ⟨0x1F0E, 0x1F08, 0x342⟩,
  ⟨0x1F0F, 0x1F09, 0x342⟩, ⟨0x1F10, 0x3B5, 0x313⟩, ⟨0x1F11, 0x3B5, 0x314⟩,
  ⟨0x1F12, 0x1F10, 0x300⟩, ⟨0x1F13, 0x1F11, 0x300⟩, ⟨0x1F14, 0x1F10, 0x301⟩,
  ⟨0x1F15, 0x1F11, 0x301⟩, ⟨0x1F18, 0x395, 0x313⟩, ⟨0x1F19, 0x395, 0x314⟩,
  ⟨0x1F1A, 0x1F18, 0x300⟩, ⟨0x1F1B, 0x1F19, 0x300⟩, ⟨0x1F1C, 0x1F18, 0x301⟩,
  ⟨0x1F1D, 0x1F19, 0x301⟩, ⟨0x1F20, 0x3B7, 0x313⟩, ⟨0x1F21, 0x3B7, 0x314⟩,
  ⟨0x1F22, 0x1F20, 0x300⟩, ⟨0x1F23, 0x1F21, 0x300⟩, ⟨0x1F24, 0x1F20, 0x301⟩,
  ⟨0x1F25, 0x1F21, 0x301⟩, ⟨0x1F26, 0x1F20, 0x342⟩, ⟨0x1F27, 0x1F21, 0x342⟩,
  ⟨0x1F28, 0x397, 0x313⟩, ⟨0x1F29, 0x397, 0x314⟩, ⟨0x1F2A, 0x1F28, 0x300⟩,
  ⟨0x1F2B, 0x1F29, 0x300⟩, ⟨0x1F2C, 0x1F28, 0x301⟩, ⟨0x1F2D, 0x1F29, 0x301⟩,
  ⟨0x1F2E, 0x1F28, 0x342⟩, ⟨0x1F2F, 0x1F29, 0x342⟩, ⟨0x1F30, 0x3B9, 0x313⟩,
  ⟨0x1F31, 0x3B9, 0x314⟩, ⟨0x1F32, 0x1F30, 0x300⟩, ⟨0x1F33, 0x1F31, 0x300⟩,
  ⟨0x1F34, 0x1F30, 0x301⟩, ⟨0x1F35, 0x1F31, 0x301⟩, ⟨0x1F36, 0x1F30, 0x342⟩,
  ⟨0x1F37, 0x1F31, 0x342⟩, ⟨0x1F38, 0x399, 0x313⟩, ⟨0x1F39, 0x399, 0x314⟩,
  ⟨0x1F3A, 0x1F38, 0x300⟩, ⟨0x1F3B, 0x1F39, 0x300⟩, ⟨0x1F3C, 0x1F38, 0x301⟩,
  ⟨0x1F3D, 0x1F39, 0x301⟩, ⟨0x1F3E, 0x1F38, 0x342⟩, ⟨0x1F3F, 0x1F39, 0x342⟩,
  ⟨0x1F40, 0x3BF, 0x313⟩, ⟨0x1F41, 0x3BF, 0x314⟩, ⟨0x1F42, 0x1F40, 0x300⟩,
  ⟨0x1F43, 0x1F41, 0x300⟩, ⟨0x1F44, 0x1F40, 0x301⟩, ⟨0x1F45, 0x1F41, 0x301⟩,
  ⟨0x1F48, 0x39F, 0x313⟩, ⟨0x1F49, 0x39F, 0x314⟩, ⟨0x1F4A, 0x1F48, 0x300⟩,
  ⟨0x1F4B, 0x1F49, 0x300⟩, ⟨0x1F4C, 0x1F48, 0x301⟩, ⟨0x1F4D, 0x1F49, 0x301⟩,
  ⟨0x1F50, 0x3C5, 0x313⟩, ⟨0x1F51, 0x3C5, 0x314⟩, ⟨0x1F52, 0x1F50, 0x300⟩,
  ⟨0x1F53, 0x1F51, 0x300⟩, ⟨0x1F54, 0x1F50, 0x301⟩, ⟨0x1F55, 0x1F51, 0x301⟩,
  ⟨0x1F56, 0x1F50, 0x342⟩, ⟨0x1F57, 0x1F51, 0x342⟩, ⟨0x1F59, 0x3A5, 0x314⟩,
  ⟨0x1F5B, 0x1F59, 0x300⟩, ⟨0x1F5D, 0x1F59, 0x301⟩, ⟨0x1F5F, 0x1F59, 0x342⟩,
  ⟨0x1F60, 0x3C9, 0x313⟩, ⟨0x1F61, 0x3C9, 0x314⟩, ⟨0x1F62, 0x1F60, 0x300⟩,
  ⟨0x1F63, 0x1F61, 0x300⟩, ⟨0x1F64, 0x1F60, 0x301⟩, ⟨0x1F65, 0x1F61, 0x301⟩,
  ⟨0x1F66, 0x1F60, 0x342⟩, ⟨0x1F67, 0x1F61, 0x342⟩, ⟨0x1F68, 0x3A9, 0x313⟩,
  ⟨0x1F69, 0x3A9, 0x314⟩, ⟨0x1F6A, 0x1F68, 0x300⟩, ⟨0x1F6B, 0x1F69, 0x300⟩,
  ⟨0x1F6C, 0x1F68, 0x301⟩, ⟨0x1F6D, 0x1F69, 0x301⟩, ⟨0x1F6E, 0x1F68, 0x342⟩,
  ⟨0x1F6F, 0x1F69, 0x342⟩, ⟨0x1F70, 0x3B1, 0x300⟩, ⟨0x1F72, 0x3B5, 0x300⟩, ⟨0x1F74, 0x3B7, 0x300⟩,
  ⟨0x1F76, 0x3B9, 0x300⟩, ⟨0x1F78, 0x3BF, 0x300⟩, ⟨0x1F7A, 0x3C5, 0x300⟩, ⟨0x1F7C, 0x3C9, 0x300⟩,
  ⟨0x1F80, 0x1F00, 0x345⟩, ⟨0x1F81, 0x1F01, 0x345⟩, ⟨0x1F82, 0x1F02, 0x345⟩,
  ⟨0x1F83, 0x1F03, 0x345⟩, ⟨0x1F84, 0x1F04, 0x345⟩, ⟨0x1F85, 0x1F05, 0x345⟩,
  ⟨0x1F86, 0x1F06, 0x345⟩, ⟨0x1F87, 0x1F07, 0x345⟩, ⟨0x1F88, 0x1F08, 0x345⟩,
  ⟨0x1F89, 0x1F09, 0x345⟩, ⟨0x1F8A, 0x1F0A, 0x345⟩, ⟨0x1F8B, 0x1F0B, 0x345⟩,
  ⟨0x1F8C, 0x1F0C, 0x345⟩, ⟨0x1F8D, 0x1F0D, 0x345⟩, ⟨0x1F8E, 0x1F0E, 0x345⟩,
  ⟨0x1F8F, 0x1F0F, 0x345⟩, ⟨0x1F90, 0x1F20, 0x345⟩, ⟨0x1F91, 0x1F21, 0x345⟩,
  ⟨0x1F92, 0x1F22, 0x345⟩, ⟨0x1F93, 0x1F23, 0x345⟩, ⟨0x1F94, 0x1F24, 0x345⟩,
  ⟨0x1F95, 0x1F25, 0x345⟩, ⟨0x1F96, 0x1F26, 0x345⟩, ⟨0x1F97, 0x1F27, 0x345⟩,
  ⟨0x1F98, 0x1F28, 0x345⟩, ⟨0x1F99, 0x1F29, 0x345⟩, ⟨0x1F9A, 0x1F2A, 0x345⟩,
  ⟨0x1F9B, 0x1F2B, 0x345⟩, ⟨0x1F9C, 0x1F2C, 0x345⟩, ⟨0x1F9D, 0x1F2D, 0x345⟩,
  ⟨0x1F9E, 0x1F2E, 0x345⟩, ⟨0x1F9F, 0x1F2F, 0x345⟩, ⟨0x1FA0, 0x1F60, 0x345⟩,
  ⟨0x1FA1, 0x1F61, 0x345⟩, ⟨0x1FA2, 0x1F62, 0x345⟩, ⟨0x1FA3, 0x1F63, 0x345⟩,
  ⟨0x1FA4, 0x1F64, 0x345⟩, ⟨0x1FA5, 0x1F65, 0x345⟩, ⟨0x1FA6, 0x1F66, 0x345⟩,
  ⟨0x1FA7, 0x1F67, 0x345⟩, ⟨0x1FA8, 0x1F68, 0x345⟩, ⟨0x1FA9, 0x1F69, 0x345⟩,
  ⟨0x1FAA, 0x1F6A, 0x345⟩, ⟨0x1FAB, 0x1F6B, 0x345⟩, ⟨0x1FAC, 0x1F6C, 0x345⟩,
  ⟨0x1FAD, 0x1F6D, 0x345⟩, ⟨0x1FAE, 0x1F6E, 0x345⟩, ⟨0x1FAF, 0x1F6F, 0x345⟩,
  ⟨0x1FB0, 0x3B1, 0x306⟩, ⟨0x1FB1, 0x3B1, 0x304⟩, ⟨0x1FB2, 0x1F70, 0x345⟩, ⟨0x1FB3, 0x3B1, 0x345⟩,
  ⟨0x1FB4, 0x3AC, 0x345⟩, ⟨0x1FB6, 0x3B1, 0x342⟩, ⟨0x1FB7, 0x1FB6, 0x345⟩, ⟨0x1FB8, 0x391, 0x306⟩,
  ⟨0x1FB9, 0x391, 0x304⟩, ⟨0x1FBA, 0x391, 0x300⟩, ⟨0x1FBC, 0x391, 0x345⟩, ⟨0x1FC1, 0xA8, 0x342⟩,
  ⟨0x1FC2, 0x1F74, 0x345⟩, ⟨0x1FC3, 0x3B7, 0x345⟩, ⟨0x1FC4, 0x3AE, 0x345⟩, ⟨0x1FC6, 0x3B7, 0x342⟩,
  ⟨0x1FC7, 0x1FC6, 0x345⟩, ⟨0x1FC8, 0x395, 0x300⟩, ⟨0x1FCA, 0x397, 0x300⟩, ⟨0x1FCC, 0x397, 0x345⟩,
  ⟨0x1FCD, 0x1FBF, 0x300⟩, ⟨0x1FCE, 0x1FBF, 0x301⟩, ⟨0x1FCF, 0x1FBF, 0x342⟩,
  ⟨0x1FD0, 0x3B9, 0x306⟩, ⟨0x1FD1, 0x3B9, 0x304⟩, ⟨0x1FD2, 0x3CA, 0x300⟩, ⟨0x1FD6, 0x3B9, 0x342⟩,
  ⟨0x1FD7, 0x3CA, 0x342⟩, ⟨0x1FD8, 0x399, 0x306⟩, ⟨0x1FD9, 0x399, 0x304⟩, ⟨0x1FDA, 0x399, 0x300⟩,
  ⟨0x1FDD, 0x1FFE, 0x300⟩, ⟨0x1FDE, 0x1FFE, 0x301⟩, ⟨0x1FDF, 0x1FFE, 0x342⟩,
  ⟨0x1FE0, 0x3C5, 0x306⟩, ⟨0x1FE1, 0x3C5, 0x304⟩, ⟨0x1FE2, 0x3CB, 0x300⟩, ⟨0x1FE4, 0x3C1, 0x313⟩,
  ⟨0x1FE5, 0x3C1, 0x314⟩, ⟨0x1FE6, 0x3C5, 0x342⟩, ⟨0x1FE7, 0x3CB, 0x342⟩, ⟨0x1FE8, 0x3A5, 0x306⟩,
  ⟨0x1FE9, 0x3A5, 0x304⟩, ⟨0x1FEA, 0x3A5, 0x300⟩, ⟨0x1FEC, 0x3A1, 0x314⟩, ⟨0x1FED, 0xA8, 0x300⟩,
  ⟨0x1FF2, 0x1F7C, 0x345⟩, ⟨0x1FF3, 0x3C9, 0x345⟩, ⟨0x1FF4, 0x3CE, 0x345⟩, ⟨0x1FF6, 0x3C9, 0x342⟩,
  ⟨0x1FF7, 0x1FF6, 0x345⟩, ⟨0x1FF8, 0x39F, 0x300⟩, ⟨0x1FFA, 0x3A9, 0x300⟩, ⟨0x1FFC, 0x3A9, 0x345⟩,
  ⟨0x219A, 0x2190, 0x338⟩, ⟨0x219B, 0x2192, 0x338⟩, ⟨0x21AE, 0x2194, 0x338⟩,
  ⟨0x21CD, 0x21D0, 0x338⟩, ⟨0x21CE, 0x21D4, 0x338⟩, ⟨0x21CF, 0x21D2, 0x338⟩,
  ⟨0x2204, 0x2203, 0x338⟩, ⟨0x2209, 0x2208, 0x338⟩, ⟨0x220C, 0x220B, 0x338⟩,
  ⟨0x2224, 0x2223, 0x338⟩, ⟨0x2226, 0x2225, 0x338⟩, ⟨0x2241, 0x223C, 0x338⟩,
  ⟨0x2244, 0x2243, 0x338⟩, ⟨0x2247, 0x2245, 0x338⟩, ⟨0x2249, 0x2248, 0x338⟩,
  ⟨0x2260, 0x3D, 0x338⟩, ⟨0x2262, 0x2261, 0x338⟩, ⟨0x226D, 0x224D, 0x338⟩, ⟨0x226E, 0x3C, 0x338⟩,
  ⟨0x226F, 0x3E, 0x338⟩, ⟨0x2270, 0x2264, 0x338⟩, ⟨0x2271, 0x2265, 0x338⟩,
  ⟨0x2274, 0x2272, 0x338⟩, ⟨0x2275, 0x2273, 0x338⟩, ⟨0x2278, 0x2276, 0x338⟩,
  ⟨0x2279, 0x2277, 0x338⟩, ⟨0x2280, 0x227A, 0x338⟩, ⟨0x2281, 0x227B, 0x338⟩,
  ⟨0x2284, 0x2282, 0x338⟩, ⟨0x2285, 0x2283, 0x338⟩, ⟨0x2288, 0x2286, 0x338⟩,
  ⟨0x2289, 0x2287, 0x338⟩, ⟨0x22AC, 0x22A2, 0x338⟩, ⟨0x22AD, 0x22A8, 0x338⟩,
  ⟨0x22AE, 0x22A9, 0x338⟩, ⟨0x22AF, 0x22AB, 0x338⟩, ⟨0x22E0, 0x227C, 0x338⟩,
  ⟨0x22E1, 0x227D, 0x338⟩, ⟨0x22E2, 0x2291, 0x338⟩, ⟨0x22E3, 0x2292, 0x338⟩,
  ⟨0x22EA, 0x22B2, 0x338⟩, ⟨0x22EB, 0x22B3, 0x338⟩, ⟨0x22EC, 0x22B4, 0x338⟩,
  ⟨0x22ED, 0x22B5, 0x338⟩, ⟨0x304C, 0x304B, 0x3099⟩, ⟨0x304E, 0x304D, 0x3099⟩,
  ⟨0x3050, 0x304F, 0x3099⟩, ⟨0x3052, 0x3051, 0x3099⟩, ⟨0x3054, 0x3053, 0x3099⟩,
  ⟨0x3056, 0x3055, 0x3099⟩, ⟨0x3058, 0x3057, 0x3099⟩, ⟨0x305A, 0x3059, 0x3099⟩,
  ⟨0x305C, 0x305B, 0x3099⟩, ⟨0x305E, 0x305D, 0x3099⟩, ⟨0x3060, 0x305F, 0x3099⟩,
  ⟨0x3062, 0x3061, 0x3099⟩, ⟨0x3065, 0x3064, 0x3099⟩, ⟨0x3067, 0x3066, 0x3099⟩,
  ⟨0x3069, 0x3068, 0x3099⟩, ⟨0x3070, 0x306F, 0x3099⟩, ⟨0x3071, 0x306F, 0x309A⟩,
  ⟨0x3073, 0x3072, 0x3099⟩, ⟨0x3074, 0x3072, 0x309A⟩, ⟨0x3076, 0x3075, 0x3099⟩,
  ⟨0x3077, 0x3075, 0x309A⟩, ⟨0x3079, 0x3078, 0x3099⟩, ⟨0x307A, 0x3078, 0x309A⟩,
  ⟨0x307C, 0x307B, 0x3099⟩, ⟨0x307D, 0x307B, 0x309A⟩, ⟨0x3094, 0x3046, 0x3099⟩,
  ⟨0x309E, 0x309D, 0x3099⟩, ⟨0x30AC, 0x30AB, 0x3099⟩, ⟨0x30AE, 0x30AD, 0x3099⟩,
  ⟨0x30B0, 0x30AF, 0x3099⟩, ⟨0x30B2, 0x30B1, 0x3099⟩, ⟨0x30B4, 0x30B3, 0x3099⟩,
  ⟨0x30B6, 0x30B5, 0x3099⟩, ⟨0x30B8, 0x30B7, 0x3099⟩, ⟨0x30BA, 0x30B9, 0x3099⟩,
  ⟨0x30BC, 0x30BB, 0x3099⟩, ⟨0x30BE, 0x30BD, 0x3099⟩, ⟨0x30C0, 0x30BF, 0x3099⟩,
  ⟨0x30C2, 0x30C1, 0x3099⟩, ⟨0x30C5, 0x30C4, 0x3099⟩, ⟨0x30C7, 0x30C6, 0x3099⟩,
  ⟨0x30C9, 0x30C8, 0x3099⟩, ⟨0x30D0, 0x30CF, 0x3099⟩, ⟨0x30D1, 0x30CF, 0x309A⟩,
  ⟨0x30D3, 0x30D2, 0x3099⟩, ⟨0x30D4, 0x30D2, 0x309A⟩, ⟨0x30D6, 0x30D5, 0x3099⟩,
  ⟨0x30D7, 0x30D5, 0x309A⟩, ⟨0x30D9, 0x30D8, 0x3099⟩, ⟨0x30DA, 0x30D8, 0x309A⟩,
  ⟨0x30DC, 0x30DB, 0x3099⟩, ⟨0x30DD, 0x30DB, 0x309A⟩, ⟨0x30F4, 0x30A6, 0x3099⟩,
  ⟨0x30F7, 0x30EF, 0x3099⟩, ⟨0x30F8, 0x30F0, 0x3099⟩, ⟨0x30F9, 0x30F1, 0x3099⟩,
  ⟨0x30FA, 0x30F2, 0x3099⟩, ⟨0x30FE, 0x30FD, 0x3099⟩, ⟨0x105C9, 0x105D2, 0x307⟩,
  ⟨0x105E4, 0x105DA, 0x307⟩, ⟨0x1109A, 0x11099, 0x110BA⟩, ⟨0x1109C, 0x1109B, 0x110BA⟩,
  ⟨0x110AB, 0x110A5, 0x110BA⟩, ⟨0x1112E, 0x11131, 0x11127⟩, ⟨0x1112F, 0x11132, 0x11127⟩,
  ⟨0x1134B, 0x11347, 0x1133E⟩, ⟨0x1134C, 0x11347, 0x11357⟩, ⟨0x11383, 0x11382, 0x113C9⟩,
  ⟨0x11385, 0x11384, 0x113BB⟩, ⟨0x1138E, 0x1138B, 0x113C2⟩, ⟨0x11391, 0x11390, 0x113C9⟩,
  ⟨0x113C5, 0x113C2, 0x113C2⟩, ⟨0x113C7, 0x113C2, 0x113B8⟩, ⟨0x113C8, 0x113C2, 0x113C9⟩,
  ⟨0x114BB, 0x114B9, 0x114BA⟩, ⟨0x114BC, 0x114B9, 0x114B0⟩, ⟨0x114BE, 0x114B9, 0x114BD⟩,
  ⟨0x115BA, 0x115B8, 0x115AF⟩, ⟨0x115BB, 0x115B9, 0x115AF⟩, ⟨0x11938, 0x11935, 0x11930⟩,
  ⟨0x16121, 0x1611E, 0x1611E⟩, ⟨0x16122, 0x1611E, 0x16129⟩, ⟨0x16123, 0x1611E, 0x1611F⟩,
  ⟨0x16124, 0x16129, 0x1611F⟩, ⟨0x16125, 0x1611E, 0x16120⟩, ⟨0x16126, 0x16121, 0x1611F⟩,
  ⟨0x16127, 0x16122, 0x1611F⟩, ⟨0x16128, 0x16121, 0x16120⟩, ⟨0x16D68, 0x16D67, 0x16D67⟩,
  ⟨0x16D69, 0x16D63, 0x16D67⟩, ⟨0x16D6A, 0x16D69, 0x16D67⟩]

/-- The characters that are only taken apart. -/
def loosePairs : List Pair := [
  ⟨0x344, 0x308, 0x301⟩, ⟨0x958, 0x915, 0x93C⟩, ⟨0x959, 0x916, 0x93C⟩, ⟨0x95A, 0x917, 0x93C⟩,
  ⟨0x95B, 0x91C, 0x93C⟩, ⟨0x95C, 0x921, 0x93C⟩, ⟨0x95D, 0x922, 0x93C⟩, ⟨0x95E, 0x92B, 0x93C⟩,
  ⟨0x95F, 0x92F, 0x93C⟩, ⟨0x9DC, 0x9A1, 0x9BC⟩, ⟨0x9DD, 0x9A2, 0x9BC⟩, ⟨0x9DF, 0x9AF, 0x9BC⟩,
  ⟨0xA33, 0xA32, 0xA3C⟩, ⟨0xA36, 0xA38, 0xA3C⟩, ⟨0xA59, 0xA16, 0xA3C⟩, ⟨0xA5A, 0xA17, 0xA3C⟩,
  ⟨0xA5B, 0xA1C, 0xA3C⟩, ⟨0xA5E, 0xA2B, 0xA3C⟩, ⟨0xB5C, 0xB21, 0xB3C⟩, ⟨0xB5D, 0xB22, 0xB3C⟩,
  ⟨0xF43, 0xF42, 0xFB7⟩, ⟨0xF4D, 0xF4C, 0xFB7⟩, ⟨0xF52, 0xF51, 0xFB7⟩, ⟨0xF57, 0xF56, 0xFB7⟩,
  ⟨0xF5C, 0xF5B, 0xFB7⟩, ⟨0xF69, 0xF40, 0xFB5⟩, ⟨0xF73, 0xF71, 0xF72⟩, ⟨0xF75, 0xF71, 0xF74⟩,
  ⟨0xF76, 0xFB2, 0xF80⟩, ⟨0xF78, 0xFB3, 0xF80⟩, ⟨0xF81, 0xF71, 0xF80⟩, ⟨0xF93, 0xF92, 0xFB7⟩,
  ⟨0xF9D, 0xF9C, 0xFB7⟩, ⟨0xFA2, 0xFA1, 0xFB7⟩, ⟨0xFA7, 0xFA6, 0xFB7⟩, ⟨0xFAC, 0xFAB, 0xFB7⟩,
  ⟨0xFB9, 0xF90, 0xFB5⟩, ⟨0x2ADC, 0x2ADD, 0x338⟩, ⟨0xFB1D, 0x5D9, 0x5B4⟩, ⟨0xFB1F, 0x5F2, 0x5B7⟩,
  ⟨0xFB2A, 0x5E9, 0x5C1⟩, ⟨0xFB2B, 0x5E9, 0x5C2⟩, ⟨0xFB2C, 0xFB49, 0x5C1⟩,
  ⟨0xFB2D, 0xFB49, 0x5C2⟩, ⟨0xFB2E, 0x5D0, 0x5B7⟩, ⟨0xFB2F, 0x5D0, 0x5B8⟩, ⟨0xFB30, 0x5D0, 0x5BC⟩,
  ⟨0xFB31, 0x5D1, 0x5BC⟩, ⟨0xFB32, 0x5D2, 0x5BC⟩, ⟨0xFB33, 0x5D3, 0x5BC⟩, ⟨0xFB34, 0x5D4, 0x5BC⟩,
  ⟨0xFB35, 0x5D5, 0x5BC⟩, ⟨0xFB36, 0x5D6, 0x5BC⟩, ⟨0xFB38, 0x5D8, 0x5BC⟩, ⟨0xFB39, 0x5D9, 0x5BC⟩,
  ⟨0xFB3A, 0x5DA, 0x5BC⟩, ⟨0xFB3B, 0x5DB, 0x5BC⟩, ⟨0xFB3C, 0x5DC, 0x5BC⟩, ⟨0xFB3E, 0x5DE, 0x5BC⟩,
  ⟨0xFB40, 0x5E0, 0x5BC⟩, ⟨0xFB41, 0x5E1, 0x5BC⟩, ⟨0xFB43, 0x5E3, 0x5BC⟩, ⟨0xFB44, 0x5E4, 0x5BC⟩,
  ⟨0xFB46, 0x5E6, 0x5BC⟩, ⟨0xFB47, 0x5E7, 0x5BC⟩, ⟨0xFB48, 0x5E8, 0x5BC⟩, ⟨0xFB49, 0x5E9, 0x5BC⟩,
  ⟨0xFB4A, 0x5EA, 0x5BC⟩, ⟨0xFB4B, 0x5D5, 0x5B9⟩, ⟨0xFB4C, 0x5D1, 0x5BF⟩, ⟨0xFB4D, 0x5DB, 0x5BF⟩,
  ⟨0xFB4E, 0x5E4, 0x5BF⟩, ⟨0x1D15E, 0x1D157, 0x1D165⟩, ⟨0x1D15F, 0x1D158, 0x1D165⟩,
  ⟨0x1D160, 0x1D15F, 0x1D16E⟩, ⟨0x1D161, 0x1D15F, 0x1D16F⟩, ⟨0x1D162, 0x1D15F, 0x1D170⟩,
  ⟨0x1D163, 0x1D15F, 0x1D171⟩, ⟨0x1D164, 0x1D15F, 0x1D172⟩, ⟨0x1D1BB, 0x1D1B9, 0x1D165⟩,
  ⟨0x1D1BC, 0x1D1BA, 0x1D165⟩, ⟨0x1D1BD, 0x1D1BB, 0x1D16E⟩, ⟨0x1D1BE, 0x1D1BC, 0x1D16E⟩,
  ⟨0x1D1BF, 0x1D1BB, 0x1D16F⟩, ⟨0x1D1C0, 0x1D1BC, 0x1D16F⟩]

/-- The two parts of a character. -/
def parts? (c : Char) : Option (Char × Char) :=
  ((pairs ++ loosePairs).find? fun p => p.whole = c.toNat).map fun p =>
    (Char.ofNat p.left, Char.ofNat p.right)

/-! ## Hangul -/

/-- A syllable of Hangul: the numbers of its first consonant, its vowel, and its last
consonant, which is 0 if there is none. -/
structure Syllable where
  first : Nat
  vowel : Nat
  last : Nat

/-- The syllable that a character is. -/
def Syllable.of? (c : Char) : Option Syllable :=
  let n := c.toNat
  if 0xAC00 ≤ n ∧ n < 0xD7A4 then
    some ⟨(n - 0xAC00) / 588, (n - 0xAC00) % 588 / 28, (n - 0xAC00) % 28⟩
  else none

/-- The characters of a syllable's consonants and vowel. -/
def Syllable.letters (s : Syllable) : List Char :=
  let front := [Char.ofNat (0x1100 + s.first), Char.ofNat (0x1161 + s.vowel)]
  if s.last = 0 then front else front ++ [Char.ofNat (0x11A7 + s.last)]

/-- The syllable that begins with these two characters: two letters, or a syllable
without a last consonant and that consonant. -/
def syllable? (a b : Char) : Option Char :=
  let m := a.toNat
  let n := b.toNat
  if 0x1100 ≤ m ∧ m < 0x1113 ∧ 0x1161 ≤ n ∧ n < 0x1176 then
    some (Char.ofNat (0xAC00 + ((m - 0x1100) * 21 + (n - 0x1161)) * 28))
  else if 0xAC00 ≤ m ∧ m < 0xD7A4 ∧ (m - 0xAC00) % 28 = 0 ∧ 0x11A8 ≤ n ∧ n < 0x11C3 then
    some (Char.ofNat (m + (n - 0x11A7)))
  else none

/-! ## Both ways -/

/-- Takes a character apart. No character has more than four parts, which bounds the
steps by the first argument. -/
def splitParts : Nat → Char → List Char
  | 0, c => [c]
  | steps + 1, c =>
    match parts? c with
    | some (left, right) => splitParts steps left ++ [right]
    | none => [c]

/-- The longest way of writing a character. -/
def takenApart (c : Char) : List Char :=
  if c.toNat < 0x80 then [c]
  else
    match Syllable.of? c with
    | some s => s.letters
    | none => splitParts 4 ((copied? c).getD c)

/-- The character that two characters can be written as. -/
def joined? (a b : Char) : Option Char :=
  match syllable? a b with
  | some c => some c
  | none =>
    (pairs.find? fun p => p.left = a.toNat && p.right = b.toNat).map fun p => Char.ofNat p.whole

end TokenCustody.Text.Normal
