import SchemaGuard.Text.Ranges
import SchemaGuard.Text.Split

/-!
# Forms of characters

Characters that are other characters in another form, such as letters in another width or ligatures,
characters that are made of a character and a mark, and the order in which marks are written. The
tables cover the characters that can be part of identifiers (Unicode 14).
-/

namespace SchemaGuard.Text

/-! ## Characters in another form -/

/-- Runs of characters, by the first and their number, that stand for as many others from a first one
on. -/
def shiftedForms : List (Nat × Nat × Nat) := [
  (0x1d33, 8, 0x47), (0x1dae, 4, 0x272), (0x2096, 4, 0x6b), (0x2135, 4, 0x5d0), (0x313a, 6, 0x11b0),
  (0x3145, 10, 0x1109), (0x314f, 21, 0x1161), (0x3178, 5, 0x112b), (0xff10, 10, 0x30),
  (0xff21, 26, 0x41), (0xff41, 26, 0x61), (0xff85, 6, 0x30ca), (0xff8f, 5, 0x30de),
  (0xff96, 6, 0x30e8), (0xffaa, 6, 0x11b0), (0xffb5, 10, 0x1109), (0xffc2, 6, 0x1161),
  (0xffca, 6, 0x1167), (0xffd2, 6, 0x116d), (0x1d400, 26, 0x41), (0x1d41a, 26, 0x61),
  (0x1d434, 26, 0x41), (0x1d44e, 7, 0x61), (0x1d456, 18, 0x69), (0x1d468, 26, 0x41),
  (0x1d482, 26, 0x61), (0x1d4a9, 4, 0x4e), (0x1d4ae, 8, 0x53), (0x1d4b6, 4, 0x61),
  (0x1d4bd, 7, 0x68), (0x1d4c5, 11, 0x70), (0x1d4d0, 26, 0x41), (0x1d4ea, 26, 0x61),
  (0x1d507, 4, 0x44), (0x1d50d, 8, 0x4a), (0x1d516, 7, 0x53), (0x1d51e, 26, 0x61),
  (0x1d53b, 4, 0x44), (0x1d540, 5, 0x49), (0x1d54a, 7, 0x53), (0x1d552, 26, 0x61),
  (0x1d56c, 26, 0x41), (0x1d586, 26, 0x61), (0x1d5a0, 26, 0x41), (0x1d5ba, 26, 0x61),
  (0x1d5d4, 26, 0x41), (0x1d5ee, 26, 0x61), (0x1d608, 26, 0x41), (0x1d622, 26, 0x61),
  (0x1d63c, 26, 0x41), (0x1d656, 26, 0x61), (0x1d670, 26, 0x41), (0x1d68a, 26, 0x61),
  (0x1d6a8, 17, 0x391), (0x1d6ba, 7, 0x3a3), (0x1d6c2, 25, 0x3b1), (0x1d6e2, 17, 0x391),
  (0x1d6f4, 7, 0x3a3), (0x1d6fc, 25, 0x3b1), (0x1d71c, 17, 0x391), (0x1d72e, 7, 0x3a3),
  (0x1d736, 25, 0x3b1), (0x1d756, 17, 0x391), (0x1d768, 7, 0x3a3), (0x1d770, 25, 0x3b1),
  (0x1d790, 17, 0x391), (0x1d7a2, 7, 0x3a3), (0x1d7aa, 25, 0x3b1), (0x1d7ce, 10, 0x30),
  (0x1d7d8, 10, 0x30), (0x1d7e2, 10, 0x30), (0x1d7ec, 10, 0x30), (0x1d7f6, 10, 0x30),
  (0x1ee0a, 4, 0x643), (0x1ee2a, 4, 0x643), (0x1fbf0, 10, 0x30)]

/-- Runs of characters, by the first, and what each of them stands for. -/
def singleForms : List (Nat × String) := [
  (0xaa, "a"), (0xb5, "μ"), (0xba, "o"), (0x17f, "s"), (0x2b0, "hɦjrɹɻʁwy"), (0x2e0, "ɣlsxʕ"),
  (0x340, "\u0300\u0301"), (0x343, "\u0313"), (0x374, "ʹ"), (0x387, "·"), (0x3d0, "βθΥΎΫφπ"),
  (0x3f0, "κρς"), (0x3f4, "Θε"), (0x3f9, "Σ"), (0x10fc, "ნ"), (0x1d2c, "AÆB"), (0x1d30, "DEƎ"),
  (0x1d3c, "OȢPRTUWaɐɑᴂbdeəɛɜg"), (0x1d4f, "kmŋoɔᴖᴗptuᴝɯvᴥβγδφχiruvβγρφχ"), (0x1d78, "н"),
  (0x1d9b, "ɒcɕðɜfɟɡɥɨɩɪᵻʝɭᶅʟɱɰ"), (0x1db2, "ɸʂʃƫʉʊᴜʋʌzʐʑʒθ"), (0x1e9b, "ṡ"), (0x1f71, "ά"),
  (0x1f73, "έ"), (0x1f75, "ή"), (0x1f77, "ί"), (0x1f79, "ό"), (0x1f7b, "ύ"), (0x1f7d, "ώ"),
  (0x1fbb, "Ά"), (0x1fbe, "ι"), (0x1fc9, "Έ"), (0x1fcb, "Ή"), (0x1fd3, "ΐ"), (0x1fdb, "Ί"),
  (0x1fe3, "ΰ"), (0x1feb, "Ύ"), (0x1ff9, "Ό"), (0x1ffb, "Ώ"), (0x2071, "i"), (0x207f, "n"),
  (0x2090, "aeoxəh"), (0x209a, "pst"), (0x2102, "C"), (0x2107, "Ɛ"), (0x210a, "gHHHhħIILl"),
  (0x2115, "N"), (0x2119, "PQRRR"), (0x2124, "Z"), (0x2126, "Ω"), (0x2128, "Z"), (0x212a, "KÅBC"),
  (0x212f, "eEF"), (0x2133, "Mo"), (0x2139, "i"), (0x213c, "πγΓΠ"), (0x2145, "Ddeij"),
  (0x2160, "I"), (0x2164, "V"), (0x2169, "X"), (0x216c, "LCDMi"), (0x2174, "v"), (0x2179, "x"),
  (0x217c, "lcdm"), (0x2c7c, "jV"), (0x2d6f, "ⵡ"), (0x3038, "十卄卅"), (0x3131, "ᄀᄁᆪᄂᆬᆭᄃᄄᄅ"),
  (0x3140, "ᄚᄆᄇᄈᄡ"), (0x3164, "ᅠᄔᄕᇇᇈᇌᇎᇓᇗᇙᄜᇝᇟᄝᄞᄠᄢᄣᄧᄩ"), (0x317d, "ᄲᄶᅀᅇᅌᇱᇲᅗᅘᅙᆄᆅᆈᆑᆒᆔᆞᆡ"),
  (0xa69c, "ъь"), (0xa770, "ꝯ"), (0xa7f2, "CFQ"), (0xa7f8, "Ħœ"), (0xab5c, "ꜧꬷɫꭒ"), (0xab69, "ʍ"),
  (0xf900, "豈更車賈滑串句龜龜契金喇奈懶癩羅蘿螺裸邏樂洛烙珞落酪駱亂卵欄爛蘭鸞嵐濫藍襤拉臘蠟廊朗浪狼郎來冷勞擄櫓爐盧老蘆虜路露魯鷺碌祿綠菉錄"),
  (0xf940, "鹿論壟弄籠聾牢磊賂雷壘屢樓淚漏累縷陋勒肋凜凌稜綾菱陵讀拏樂諾丹寧怒率異北磻便復不泌數索參塞省葉說殺辰沈拾若掠略亮兩凉梁糧良諒量勵"),
  (0xf980, "呂女廬旅濾礪閭驪麗黎力曆歷轢年憐戀撚漣煉璉秊練聯輦蓮連鍊列劣咽烈裂說廉念捻殮簾獵令囹寧嶺怜玲瑩羚聆鈴零靈領例禮醴隸惡了僚寮尿料樂"),
  (0xf9c0, "燎療蓼遼龍暈阮劉杻柳流溜琉留硫紐類六戮陸倫崙淪輪律慄栗率隆利吏履易李梨泥理痢罹裏裡里離匿溺吝燐璘藺隣鱗麟林淋臨立笠粒狀炙識什茶刺"),
  (0xfa00, "切度拓糖宅洞暴輻行降見廓兀嗀"), (0xfa10, "塚"), (0xfa12, "晴"), (0xfa15, "凞猪益礼神祥福靖精羽"), (0xfa20, "蘒"),
  (0xfa22, "諸"), (0xfa25, "逸都"),
  (0xfa2a, "飯飼館鶴郞隷侮僧免勉勤卑喝嘆器塀墨層屮悔慨憎懲敏既暑梅海渚漢煮爫琢碑社祉祈祐祖祝禍禎穀突節練縉繁署者臭艹艹著褐視謁謹賓贈辶逸難響"), (0xfa6a, "頻恵𤋮舘"),
  (0xfa70, "並况全侀充冀勇勺喝啕喙嗢塚墳奄奔婢嬨廒廙彩徭惘慎愈憎慠懲戴揄搜摒敖晴朗望杖歹殺流滛滋漢瀞煮瞧爵犯猪瑱甆画瘝瘟益盛直睊着磌窱節类絛"),
  (0xfab0, "練缾者荒華蝹襁覆視調諸請謁諾諭謹變贈輸遲醙鉶陼難靖韛響頋頻鬒龜𢡊𢡄𣏕㮝䀘䀹𥉉𥳐𧻓齃龎"), (0xfb20, "עאדהכלםרת"),
  (0xfb50, "ٱٱٻٻٻٻپپپپڀڀڀڀٺٺٺٺٿٿٿٿٹٹٹٹڤڤڤڤڦڦڦڦڄڄڄڄڃڃڃڃچچچچڇڇڇڇڍڍڌڌڎڎڈڈژژڑڑکک"),
  (0xfb90, "ککگگگگڳڳڳڳڱڱڱڱںںڻڻڻڻۀۀہہہہھھھھےےۓۓ"), (0xfbd3, "ڭڭڭڭۇۇۆۆۈۈ"), (0xfbde, "ۋۋۅۅۉۉېېېېىى"),
  (0xfbfc, "یییی"), (0xfe33, "__"), (0xfe4d, "___"),
  (0xfe80, "ءآآأأؤؤإإئئئئااببببةةتتتتثثثثججججححححخخخخددذذررززسسسسششششصصصصضضض"),
  (0xfec0, "ضططططظظظظععععغغغغففففققققككككللللممممننننههههووىىيييي"), (0xff3f, "_"),
  (0xff66, "ヲァィゥェォャュョッーアイウエオカキクケコサシスセソタチツテト"), (0xff8b, "ヒフヘホ"), (0xff94, "ヤユ"),
  (0xff9c, "ワン\u3099\u309aᅠᄀᄁᆪᄂᆬᆭᄃᄄᄅ"), (0xffb0, "ᄚᄆᄇᄈᄡ"), (0xffda, "ᅳᅴᅵ"), (0x10781, "ːˑæʙɓ"),
  (0x10787, "ʣꭦʥʤɖɗᶑɘɞʩɤɢɠʛħʜɧʄʪʫɬ𝼄ꞎɮ𝼅ʎ𝼆øɶɷqɺ𝼈ɽɾʀʨʦꭧʧʈⱱ"), (0x107b2, "ʏʡʢʘǀǁǂ𝼊𝼞"), (0x1d49c, "A"),
  (0x1d49e, "CD"), (0x1d4a2, "G"), (0x1d4a5, "JK"), (0x1d4bb, "f"), (0x1d504, "AB"),
  (0x1d538, "AB"), (0x1d546, "O"), (0x1d6a4, "ıȷ"), (0x1d6b9, "Θ"), (0x1d6dc, "εθκφρπ"),
  (0x1d6f3, "Θ"), (0x1d716, "εθκφρπ"), (0x1d72d, "Θ"), (0x1d750, "εθκφρπ"), (0x1d767, "Θ"),
  (0x1d78a, "εθκφρπ"), (0x1d7a1, "Θ"), (0x1d7c4, "εθκφρπϜϝ"), (0x1ee00, "ابجد"), (0x1ee05, "وزحطي"),
  (0x1ee0e, "سعفصقرشتثخذضظغٮںڡٯ"), (0x1ee21, "بج"), (0x1ee24, "ه"), (0x1ee27, "ح"), (0x1ee29, "ي"),
  (0x1ee2e, "سعفصق"), (0x1ee34, "شتثخ"), (0x1ee39, "ض"), (0x1ee3b, "غ"), (0x1ee42, "ج"),
  (0x1ee47, "ح"), (0x1ee49, "ي"), (0x1ee4b, "ل"), (0x1ee4d, "نسع"), (0x1ee51, "صق"), (0x1ee54, "ش"),
  (0x1ee57, "خ"), (0x1ee59, "ض"), (0x1ee5b, "غ"), (0x1ee5d, "ں"), (0x1ee5f, "ٯ"), (0x1ee61, "بج"),
  (0x1ee64, "ه"), (0x1ee67, "حطيك"), (0x1ee6c, "منسعفصق"), (0x1ee74, "شتثخ"), (0x1ee79, "ضظغٮ"),
  (0x1ee7e, "ڡ"), (0x1ee80, "ابجدهوزحطي"), (0x1ee8b, "لمنسعفصقرشتثخذضظغ"), (0x1eea1, "بجد"),
  (0x1eea5, "وزحطي"), (0x1eeab, "لمنسعفصقرشتثخذضظغ"),
  (0x2f800, "丽丸乁𠄢你侮侻倂偺備僧像㒞𠘺免兔兤具𠔜㒹內再𠕋冗冤仌冬况𩇟凵刃㓟刻剆割剷㔕勇勉勤勺包匆北卉卑博即卽卿卿卿𠨬灰及叟𠭣叫叱吆咞吸呈周"),
  (0x2f840, "咢哶唐啓啣善善喙喫喳嗂圖嘆圗噑噴切壮城埴堍型堲報墬𡓤売壷夆多夢奢𡚨𡛪姬娛娧姘婦㛮㛼嬈嬾嬾𡧈寃寘寧寳𡬘寿将当尢㞁屠屮峀岍𡷤嵃𡷦嵮嵫"),
  (0x2f880, "嵼巡巢㠯巽帨帽幩㡢𢆃㡼庰庳庶廊𪎒廾𢌱𢌱舁弢弢㣇𣊸𦇚形彫㣣徚忍志忹悁㤺㤜悔𢛔惇慈慌慎慌慺憎憲憤憯懞懲懶成戛扝抱拔捐𢬌挽拼捨掃揤𢯱搢"),
  (0x2f8c0, "揅掩㨮摩摾撝摷㩬敏敬𣀊旣書晉㬙暑㬈㫤冒冕最暜肭䏙朗望朡杞杓𣏃㭉柺枅桒梅𣑭梎栟椔㮝楂榣槪檨𣚣櫛㰘次𣢧歔㱎歲殟殺殻𣪍𡴋𣫺汎𣲼沿泍汧洖"),
  (0x2f900, "派海流浩浸涅𣴞洴港湮㴳滋滇𣻑淹潮𣽞𣾎濆瀹瀞瀛㶖灊災灷炭𠔥煅𤉣熜𤎫爨爵牐𤘈犀犕𤜵𤠔獺王㺬玥㺸㺸瑇瑜瑱璅瓊㼛甤𤰶甾𤲒異𢆟瘐𤾡𤾸𥁄㿼䀈"),
  (0x2f940, "直𥃳𥃲𥄙𥄳眞真真睊䀹瞋䁆䂖𥐝硎碌磌䃣𥘦祖𥚚𥛅福秫䄯穀穊穏𥥼𥪧𥪧竮䈂𥮫篆築䈧𥲀糒䊠糨糣紀𥾆絣䌁緇縂繅䌴𦈨𦉇䍙𦋙罺𦌾羕翺者𦓚𦔣聠𦖨聰"),
  (0x2f980, "𣍟䏕育脃䐋脾媵𦞧𦞵𣎓𣎜舁舄辞䑫芑芋芝劳花芳芽苦𦬼若茝荣莭茣莽菧著荓菊菌菜𦰶𦵫𦳕䔫蓱蓳蔖𧏊蕤𦼬䕝䕡𦾱𧃒䕫虐虜虧虩蚩蚈蜎蛢蝹蜨蝫螆䗗"),
  (0x2f9c0, "蟡蠁䗹衠衣𧙧裗裞䘵裺㒻𧢮𧥦䚾䛇誠諭變豕𧲨貫賁贛起𧼯𠠄跋趼跰𠣞軔輸𨗒𨗭邔郱鄑𨜮鄛鈸鋗鋘鉼鏹鐕𨯺開䦕閷𨵷䧦雃嶲霣𩅅𩈚䩮䩶韠𩐊䪲𩒖頋頋"),
  (0x2fa00, "頩𩖶飢䬳餩馧駂駾䯎𩬰鬒鱀鳽䳎䳭鵧𪃎䳸𪄅𪈎𪊑麻䵖黹黾鼅鼏鼖鼻𪘀")]

/-- Runs of characters that stand for several each, with a bar between one and the next. -/
def multipleForms : List (Nat × String) := [
  (0x132, "IJ|ij"), (0x13f, "L·|l·"), (0x149, "ʼn"), (0x1c4, "DŽ|Dž|dž|LJ|Lj|lj|NJ|Nj|nj"),
  (0x1f1, "DZ|Dz|dz"), (0x344, "\u0308\u0301"), (0x587, "եւ"), (0x675, "اٴ|وٴ|ۇٴ|يٴ"),
  (0x958, "क\u093c|ख\u093c|ग\u093c|ज\u093c|ड\u093c|ढ\u093c|फ\u093c|य\u093c"),
  (0x9dc, "ড\u09bc|ঢ\u09bc"), (0x9df, "য\u09bc"), (0xa33, "ਲ\u0a3c"), (0xa36, "ਸ\u0a3c"),
  (0xa59, "ਖ\u0a3c|ਗ\u0a3c|ਜ\u0a3c"), (0xa5e, "ਫ\u0a3c"), (0xb5c, "ଡ\u0b3c|ଢ\u0b3c"),
  (0xe33, "\u0e4dา"), (0xeb3, "\u0ecdາ"), (0xedc, "ຫນ|ຫມ"), (0xf43, "ག\u0fb7"), (0xf4d, "ཌ\u0fb7"),
  (0xf52, "ད\u0fb7"), (0xf57, "བ\u0fb7"), (0xf5c, "ཛ\u0fb7"), (0xf69, "ཀ\u0fb5"),
  (0xf73, "\u0f71\u0f72"), (0xf75, "\u0f71\u0f74|\u0fb2\u0f80|\u0fb2\u0f71\u0f80|\u0fb3\u0f80"),
  (0xf79, "\u0fb3\u0f71\u0f80"), (0xf81, "\u0f71\u0f80"), (0xf93, "\u0f92\u0fb7"),
  (0xf9d, "\u0f9c\u0fb7"), (0xfa2, "\u0fa1\u0fb7"), (0xfa7, "\u0fa6\u0fb7"),
  (0xfac, "\u0fab\u0fb7"), (0xfb9, "\u0f90\u0fb5"), (0x1e9a, "aʾ"), (0x2161, "II|III|IV"),
  (0x2165, "VI|VII|VIII|IX"), (0x216a, "XI|XII"), (0x2171, "ii|iii|iv"), (0x2175, "vi|vii|viii|ix"),
  (0x217a, "xi|xii"), (0x309f, "より"), (0x30ff, "コト"), (0xfb00, "ff|fi|fl|ffi|ffl|st|st"),
  (0xfb13, "մն|մե|մի|վն|մխ"), (0xfb1d, "י\u05b4"), (0xfb1f, "ײ\u05b7"),
  (0xfb2a, "ש\u05c1|ש\u05c2|ש\u05bc\u05c1|ש\u05bc\u05c2|א\u05b7|א\u05b8|א\u05bc"),
  (0xfb31, "ב\u05bc|ג\u05bc|ד\u05bc|ה\u05bc|ו\u05bc|ז\u05bc"),
  (0xfb38, "ט\u05bc|י\u05bc|ך\u05bc|כ\u05bc|ל\u05bc"), (0xfb3e, "מ\u05bc"),
  (0xfb40, "נ\u05bc|ס\u05bc"), (0xfb43, "ף\u05bc|פ\u05bc"),
  (0xfb46, "צ\u05bc|ק\u05bc|ר\u05bc|ש\u05bc|ת\u05bc|ו\u05b9|ב\u05bf|כ\u05bf|פ\u05bf|אל"),
  (0xfbdd, "ۇٴ"), (0xfbea, "ئا|ئا|ئە|ئە|ئو|ئو|ئۇ|ئۇ|ئۆ|ئۆ|ئۈ|ئۈ|ئې|ئې|ئې|ئى|ئى|ئى"),
  (0xfc00, "ئج|ئح|ئم|ئى|ئي|بج|بح|بخ|بم|بى|بي|تج|تح|تخ|تم|تى|تي|ثج|ثم|ثى|ثي|جح|جم|حج|حم"),
  (0xfc19, "خج|خح|خم|سج|سح|سخ|سم|صح|صم|ضج|ضح|ضخ|ضم|طح|طم|ظم|عج|عم|غج|غم|فج|فح|فخ|فم|فى"),
  (0xfc32, "في|قح|قم|قى|قي|كا|كج|كح|كخ|كل|كم|كى|كي|لج|لح|لخ|لم|لى|لي|مج|مح|مخ|مم|مى|مي"),
  (0xfc4b, "نج|نح|نخ|نم|نى|ني|هج|هم|هى|هي|يج|يح|يخ|يم|يى|يي|ذ\u0670|ر\u0670|ى\u0670"),
  (0xfc64, "ئر|ئز|ئم|ئن|ئى|ئي|بر|بز|بم|بن|بى|بي|تر|تز|تم|تن|تى|تي|ثر|ثز|ثم|ثن|ثى|ثي|فى"),
  (0xfc7d, "في|قى|قي|كا|كل|كم|كى|كي|لم|لى|لي|ما|مم|نر|نز|نم|نن|نى|ني|ى\u0670|ير|يز|يم"),
  (0xfc94, "ين|يى|يي|ئج|ئح|ئخ|ئم|ئه|بج|بح|بخ|بم|به|تج|تح|تخ|تم|ته|ثم|جح|جم|حج|حم|خج|خم"),
  (0xfcad, "سج|سح|سخ|سم|صح|صخ|صم|ضج|ضح|ضخ|ضم|طح|ظم|عج|عم|غج|غم|فج|فح|فخ|فم|قح|قم|كج|كح"),
  (0xfcc6, "كخ|كل|كم|لج|لح|لخ|لم|له|مج|مح|مخ|مم|نج|نح|نخ|نم|نه|هج|هم|ه\u0670|يج|يح|يخ"),
  (0xfcdd, "يم|يه|ئم|ئه|بم|به|تم|ته|ثم|ثه|سم|سه|شم|شه|كل|كم|لم|نم|نه|يم|يه"),
  (0xfcf2, "ـ\u064e\u0651|ـ\u064f\u0651|ـ\u0650\u0651|طى|طي|عى|عي|غى|غي|سى|سي|شى|شي|حى"),
  (0xfd00, "حي|جى|جي|خى|خي|صى|صي|ضى|ضي|شج|شح|شخ|شم|شر|سر|صر|ضر|طى|طي|عى|عي|غى|غي|سى|سي"),
  (0xfd19, "شى|شي|حى|حي|جى|جي|خى|خي|صى|صي|ضى|ضي|شج|شح|شخ|شم|شر|سر|صر|ضر|شج|شح|شخ|شم|سه"),
  (0xfd32, "شه|طم|سج|سح|سخ|شج|شح|شخ|طم|ظم|ا\u064b|ا\u064b"),
  (0xfd50, "تجم|تحج|تحج|تحم|تخم|تمج|تمح|تمخ|جمح|جمح|حمي|حمى|سحج|سجح|سجى|سمح|سمح|سمج"),
  (0xfd62, "سمم|سمم|صحح|صحح|صمم|شحم|شحم|شجي|شمخ|شمخ|شمم|شمم|ضحى|ضخم|ضخم|طمح|طمح|طمم"),
  (0xfd74, "طمي|عجم|عمم|عمم|عمى|غمم|غمي|غمى|فخم|فخم|قمح|قمم|لحم|لحي|لحى|لجج|لجج|لخم"),
  (0xfd86, "لخم|لمح|لمح|محج|محم|محي|مجح|مجم|مخج|مخم"),
  (0xfd92, "مجخ|همج|همم|نحم|نحى|نجم|نجم|نجى|نمي|نمى|يمم|يمم|بخي|تجي|تجى|تخي|تخى|تمي"),
  (0xfda4, "تمى|جمي|جحى|جمى|سخى|صحي|شحي|ضحي|لجي|لمي|يحي|يجي|يمي|ممي|قمي|نحي|قمح|لحم"),
  (0xfdb6, "عمي|كمي|نجح|مخي|لجم|كمم|لجم|نجح|جحي|حجي|مجي|فمي|بحي|كمم|عجم|صمم|سخي|نجي"),
  (0xfdf0, "صلے|قلے|الله|اكبر|محمد|صلعم|رسول|عليه|وسلم|صلى"), (0xfe71, "ـ\u064b"),
  (0xfe77, "ـ\u064e"), (0xfe79, "ـ\u064f"), (0xfe7b, "ـ\u0650"), (0xfe7d, "ـ\u0651"),
  (0xfe7f, "ـ\u0652"), (0xfef5, "لآ|لآ|لأ|لأ|لإ|لإ|لا|لا")]

/-! ## Marks -/

/-- The characters below `0x3100` that are made of another one and a mark, by the mark: each after the
other one. Line breaks mean nothing. -/
def lowCompositeTexts : List (Nat × String) := [
  (0x300, "AÀEÈIÌNǸOÒUÙWẀYỲaàeèiìnǹoòuùwẁyỳÂẦÊỀÔỒÜǛâầêềôồüǜĂẰăằĒḔēḕŌṐōṑƠỜơờƯỪưừΑᾺ
ΕῈΗῊΙῚΟῸΥῪΩῺαὰεὲηὴιὶοὸυὺωὼϊῒϋῢЕЀИЍеѐиѝἀἂἁἃἈἊἉἋἐἒἑἓἘἚἙἛἠἢἡἣἨἪἩἫἰἲἱἳἸἺἹἻ
ὀὂὁὃὈὊὉὋὐὒὑὓὙὛὠὢὡὣὨὪὩὫ"),
  (0x301, "AÁCĆEÉGǴIÍKḰLĹMḾNŃOÓPṔRŔSŚUÚWẂYÝZŹaácćeégǵiíkḱlĺmḿnńoópṕrŕsśuúwẃyýzźÂẤ
ÅǺÆǼÇḈÊẾÏḮÔỐÕṌØǾÜǗâấåǻæǽçḉêếïḯôốõṍøǿüǘĂẮăắĒḖēḗŌṒōṓŨṸũṹƠỚơớƯỨưứΑΆΕΈΗΉΙΊ
ΟΌΥΎΩΏαάεέηήιίοόυύωώϊΐϋΰϒϓГЃКЌгѓкќἀἄἁἅἈἌἉἍἐἔἑἕἘἜἙἝἠἤἡἥἨἬἩἭἰἴἱἵἸἼἹἽὀὄὁὅ
ὈὌὉὍὐὔὑὕὙὝὠὤὡὥὨὬὩὭ"), (0x302, "AÂCĈEÊGĜHĤIÎJĴOÔSŜUÛWŴYŶZẐaâcĉeêgĝhĥiîjĵoôsŝuûwŵyŷzẑẠẬạậẸỆẹệỌỘọộ"),
  (0x303, "AÃEẼIĨNÑOÕUŨVṼYỸaãeẽiĩnñoõuũvṽyỹÂẪÊỄÔỖâẫêễôỗĂẴăẵƠỠơỡƯỮưữ"),
  (0x304, "AĀEĒGḠIĪOŌUŪYȲaāeēgḡiīoōuūyȳÄǞÆǢÕȬÖȪÜǕäǟæǣõȭöȫüǖǪǬǫǭȦǠȧǡȮȰȯȱΑᾹΙῙΥῩαᾱιῑ
υῡИӢУӮиӣуӯḶḸḷḹṚṜṛṝ"), (0x306, "AĂEĔGĞIĬOŎUŬaăeĕgğiĭoŏuŭȨḜȩḝΑᾸΙῘΥῨαᾰιῐυῠАӐЕӖЖӁИЙУЎаӑеӗжӂийуўẠẶạặ"),
  (0x307, "AȦBḂCĊDḊEĖFḞGĠHḢIİMṀNṄOȮPṖRṘSṠTṪWẆXẊYẎZŻaȧbḃcċdḋeėfḟgġhḣmṁnṅoȯpṗrṙsṡtṫ
wẇxẋyẏzżŚṤśṥŠṦšṧſẛṢṨṣṩ"),
  (0x308, "AÄEËHḦIÏOÖUÜWẄXẌYŸaäeëhḧiïoötẗuüwẅxẍyÿÕṎõṏŪṺūṻΙΪΥΫιϊυϋϒϔІЇАӒЕЁЖӜЗӞИӤОӦ
УӰЧӴЫӸЭӬаӓеёжӝзӟиӥоӧуӱчӵыӹэӭіїӘӚәӛӨӪөӫ"),
  (0x309, "AẢEẺIỈOỎUỦYỶaảeẻiỉoỏuủyỷÂẨÊỂÔỔâẩêểôổĂẲăẳƠỞơởƯỬưử"), (0x30a, "AÅUŮaåuůwẘyẙ"),
  (0x30b, "OŐUŰoőuűУӲуӳ"),
  (0x30c, "AǍCČDĎEĚGǦHȞIǏKǨLĽNŇOǑRŘSŠTŤUǓZŽaǎcčdďeěgǧhȟiǐjǰkǩlľnňoǒrřsštťuǔzžÜǙüǚ
ƷǮʒǯ"), (0x30f, "AȀEȄIȈOȌRȐUȔaȁeȅiȉoȍrȑuȕѴѶѵѷ"), (0x311, "AȂEȆIȊOȎRȒUȖaȃeȇiȋoȏrȓuȗ"),
  (0x313, "ΑἈΕἘΗἨΙἸΟὈΩὨαἀεἐηἠιἰοὀρῤυὐωὠ"), (0x314, "ΑἉΕἙΗἩΙἹΟὉΡῬΥὙΩὩαἁεἑηἡιἱοὁρῥυὑωὡ"),
  (0x31b, "OƠUƯoơuư"),
  (0x323, "AẠBḄDḌEẸHḤIỊKḲLḶMṂNṆOỌRṚSṢTṬUỤVṾWẈYỴZẒaạbḅdḍeẹhḥiịkḳlḷmṃnṇoọrṛsṣtṭuụvṿ
wẉyỵzẓƠỢơợƯỰưự"), (0x324, "UṲuṳ"), (0x325, "AḀaḁ"), (0x326, "SȘTȚsștț"),
  (0x327, "CÇDḐEȨGĢHḨKĶLĻNŅRŖSŞTŢcçdḑeȩgģhḩkķlļnņrŗsştţ"), (0x328, "AĄEĘIĮOǪUŲaąeęiįoǫuų"),
  (0x32d, "DḒEḘLḼNṊTṰUṶdḓeḙlḽnṋtṱuṷ"), (0x32e, "HḪhḫ"), (0x330, "EḚIḬUṴeḛiḭuṵ"),
  (0x331, "BḆDḎKḴLḺNṈRṞTṮZẔbḇdḏhẖkḵlḻnṉrṟtṯzẕ"),
  (0x342, "αᾶηῆιῖυῦωῶϊῗϋῧἀἆἁἇἈἎἉἏἠἦἡἧἨἮἩἯἰἶἱἷἸἾἹἿὐὖὑὗὙὟὠὦὡὧὨὮὩὯ"),
  (0x345, "ΑᾼΗῌΩῼάᾴήῄαᾳηῃωῳώῴἀᾀἁᾁἂᾂἃᾃἄᾄἅᾅἆᾆἇᾇἈᾈἉᾉἊᾊἋᾋἌᾌἍᾍἎᾎἏᾏἠᾐἡᾑἢᾒἣᾓἤᾔἥᾕἦᾖἧᾗἨᾘἩᾙ
ἪᾚἫᾛἬᾜἭᾝἮᾞἯᾟὠᾠὡᾡὢᾢὣᾣὤᾤὥᾥὦᾦὧᾧὨᾨὩᾩὪᾪὫᾫὬᾬὭᾭὮᾮὯᾯὰᾲὴῂὼῲᾶᾷῆῇῶῷ"), (0x653, "اآ"), (0x654, "اأوؤيئہۂےۓەۀ"),
  (0x655, "اإ"), (0x93c, "नऩरऱळऴ"), (0x9be, "\u09c7\u09cb"), (0x9d7, "\u09c7\u09cc"),
  (0xb3e, "\u0b47\u0b4b"), (0xb56, "\u0b47\u0b48"), (0xb57, "\u0b47\u0b4c"),
  (0xbbe, "\u0bc6\u0bca\u0bc7\u0bcb"), (0xbd7, "ஒஔ\u0bc6\u0bcc"), (0xc56, "\u0c46\u0c48"),
  (0xcc2, "\u0cc6\u0cca"), (0xcd5, "\u0cbf\u0cc0\u0cc6\u0cc7\u0cca\u0ccb"), (0xcd6, "\u0cc6\u0cc8"),
  (0xd3e, "\u0d46\u0d4a\u0d47\u0d4b"), (0xd57, "\u0d46\u0d4c"), (0xdca, "\u0dd9\u0dda\u0ddc\u0ddd"),
  (0xdcf, "\u0dd9\u0ddc"), (0xddf, "\u0dd9\u0dde"), (0x102e, "ဥဦ"),
  (0x1b35, "ᬅᬆᬇᬈᬉᬊᬋᬌᬍᬎᬑᬒ\u1b3a\u1b3b\u1b3c\u1b3d\u1b3e\u1b40\u1b3f\u1b41\u1b42\u1b43"),
  (0x3099, "うゔかがきぎくぐけげこごさざしじすずせぜそぞただちぢつづてでとどはばひびふぶへべほぼゝゞウヴカガキギクグケゲコゴサザシジスズセゼソゾタダチヂ
ツヅテデトドハバヒビフブヘベホボワヷヰヸヱヹヲヺヽヾ"), (0x309a, "はぱひぴふぷへぺほぽハパヒピフプヘペホポ")]

/-- The characters of a text in pairs. -/
def pairs : List Char → List (Nat × Nat)
  | first :: second :: rest => (first.toNat, second.toNat) :: pairs rest
  | _ => []

/-- The characters below `0x3100` that are made of another one and a mark, by the mark. -/
def lowComposites : List (Nat × List (Nat × Nat)) :=
  lowCompositeTexts.map fun (mark, text) => (mark, pairs (unbroken text))

/-- The further characters that are made of another one and a mark, by the mark. -/
def highComposites : List (Nat × List (Nat × Nat)) := [
  (0x110ba, [(0x11099, 0x1109a), (0x1109b, 0x1109c), (0x110a5, 0x110ab)]),
  (0x11127, [(0x11131, 0x1112e), (0x11132, 0x1112f)]), (0x1133e, [(0x11347, 0x1134b)]),
  (0x11357, [(0x11347, 0x1134c)]), (0x114b0, [(0x114b9, 0x114bc)]), (0x114ba, [(0x114b9, 0x114bb)]),
  (0x114bd, [(0x114b9, 0x114be)]), (0x115af, [(0x115b8, 0x115ba), (0x115b9, 0x115bb)]),
  (0x11930, [(0x11935, 0x11938)])]

/-- The numbers by which marks after a character are ordered, with the marks from U+0300 on as runs. -/
def markRuns : List (Nat × List Nat) := [
  (1, [52, 5, 6555, 1, 13, 7, 1001, 2, 4, 3, 10, 2, 3, 2, 59725, 1, 24758, 5, 20905, 1, 5320, 3]),
  (6, [93424, 2]),
  (7, [
    1596, 1, 127, 1, 127, 1, 127, 1, 127, 1, 255, 1, 127, 1, 890, 1, 2812, 1, 177, 1, 80, 1, 36219,
    1, 26374, 1, 184, 1, 86, 1, 107, 1, 178, 1, 81, 2, 265, 1, 124, 1, 252, 1, 246, 1, 386, 1, 264,
    1, 1022, 1, 52231, 1]),
  (8, [11673, 2]),
  (9, [
    1613, 1, 127, 1, 127, 1, 127, 1, 127, 1, 127, 1, 127, 1, 127, 1, 109, 2, 16, 1, 124, 1, 111, 1,
    127, 1, 201, 1, 180, 2, 1753, 2, 30, 1, 157, 1, 653, 1, 227, 1, 101, 2, 70, 2, 4491, 1, 31366,
    1, 37, 1, 151, 1, 142, 1, 108, 1, 309, 1, 246, 1, 24145, 1, 1542, 1, 41, 1, 14, 1, 57, 1, 121,
    2, 139, 1, 116, 1, 180, 1, 98, 1, 244, 1, 127, 1, 252, 1, 127, 1, 118, 1, 116, 1, 269, 1, 259,
    2, 161, 1, 83, 1, 18, 1, 81, 1, 421, 1, 260, 2, 81, 1]),
  (10, [688, 1]), (11, [689, 1]), (12, [690, 1]), (13, [691, 1]), (14, [692, 1]), (15, [693, 1]),
  (16, [694, 1]), (17, [695, 1]), (18, [696, 1, 14, 1]), (19, [697, 2]), (20, [699, 1]),
  (21, [700, 1]), (22, [701, 1]), (23, [703, 1]), (24, [705, 1]), (25, [706, 1]), (26, [63518, 1]),
  (27, [843, 1, 676, 1]), (28, [844, 1, 676, 1]), (29, [845, 1, 676, 1]), (30, [792, 1, 53, 1]),
  (31, [793, 1, 53, 1]), (32, [794, 1, 53, 1]), (33, [849, 1]), (34, [850, 1]), (35, [880, 1]),
  (36, [1041, 1]), (84, [2389, 1]), (91, [2390, 1]), (103, [2872, 2]), (107, [2888, 4]),
  (118, [3000, 2]), (122, [3016, 4]), (129, [3185, 1]), (130, [3186, 1, 7, 4, 2, 1]),
  (132, [3188, 1]), (202, [33, 2, 4, 2, 6823, 1]), (214, [6862, 1]),
  (216, [27, 1, 3101, 1, 115243, 2, 7, 5]), (218, [6906, 1, 4655, 1]),
  (220, [
    22, 4, 2, 5, 2, 4, 2, 11, 5, 4, 10, 3, 3, 2, 4, 4, 2, 2, 566, 1, 4, 1, 4, 1, 6, 6, 2, 1, 26, 1,
    143, 2, 5, 1, 2, 1, 131, 1, 6, 1, 2, 1, 67, 1, 2, 1, 2, 3, 1, 2, 1, 1, 3, 1, 1, 1, 1, 1, 1, 1,
    169, 1, 10, 1, 91, 3, 61, 3, 51, 5, 15, 1, 2, 1, 2, 1, 3, 3, 6, 1, 2, 2, 87, 1, 1477, 2, 27, 1,
    1, 1, 142, 1, 198, 1, 2221, 1, 220, 1, 102, 1, 53, 6, 2, 1, 1, 2, 2, 2, 5, 1, 161, 1, 360, 5, 2,
    4, 13, 1, 212, 1, 7, 1, 4, 1, 41, 1, 3, 1, 1, 1, 744, 1, 3, 4, 34875, 3, 390, 1, 21362, 7, 975,
    1, 226, 1, 1836, 1, 44, 1, 171, 1, 1119, 2, 3, 1, 1, 4, 50, 1, 1, 1, 49653, 8, 7, 2, 5956, 7]),
  (222, [666, 1, 18, 1, 5003, 1, 5875, 1]), (224, [11566, 2]), (226, [118381, 1]),
  (228, [686, 1, 4858, 1, 1357, 2, 4658, 1]),
  (230, [
    0, 21, 40, 8, 1, 1, 3, 3, 3, 3, 4, 1, 3, 1, 7, 13, 275, 5, 266, 4, 1, 3, 2, 6, 6, 2, 1, 2, 2, 1,
    20, 1, 75, 8, 59, 2, 2, 5, 1, 2, 119, 7, 2, 4, 1, 1, 2, 2, 2, 2, 67, 1, 1, 2, 1, 2, 3, 1, 2, 1,
    1, 3, 1, 1, 1, 1, 1, 1, 1, 2, 160, 7, 1, 1, 34, 4, 1, 9, 1, 3, 1, 5, 106, 1, 3, 4, 42, 5, 5, 14,
    2, 2, 1, 2, 1, 3, 6, 3, 1, 2, 2, 5, 81, 1, 1, 2, 169, 1, 1411, 2, 2, 2, 981, 3, 1149, 1, 348, 1,
    220, 1, 93, 8, 51, 5, 6, 2, 4, 2, 2, 5, 1, 4, 156, 1, 1, 7, 348, 3, 7, 2, 4, 1, 19, 1, 3, 2,
    198, 2, 1, 7, 1, 2, 4, 37, 5, 1, 2, 1, 721, 2, 2, 4, 3, 2, 4, 1, 5, 1, 1, 1, 6, 1, 3070, 3, 238,
    32, 30831, 1, 4, 10, 32, 2, 80, 2, 494, 18, 446, 1, 1, 2, 3, 2, 5, 2, 1, 1, 21342, 7, 7, 2,
    1350, 5, 1684, 1, 40, 1, 172, 1, 574, 4, 387, 2, 155, 3, 1, 1, 53, 1, 1, 1, 379, 3, 611, 7, 3,
    5, 233, 1, 22225, 7, 26190, 5, 32, 4, 148, 3, 3515, 7, 1, 17, 2, 7, 1, 2, 1, 5, 261, 7, 375, 1,
    61, 4, 1620, 6]),
  (232, [21, 1, 4, 1, 61, 1, 6813, 1, 4661, 1]), (233, [92, 1, 2, 1, 2, 1, 6809, 1]),
  (234, [93, 2, 1, 2, 6763, 1]), (240, [69, 1])]

/-- The numbers by which marks after a character are ordered, with the marks. -/
def markClasses : List (Nat × Ranges) := markRuns.map fun (number, runs) => (number, .ofRuns 0x300 runs)

end SchemaGuard.Text
