import RecordWatch.Text.Mark

/-! Composed text: marks behind a letter stand in the order of their classes, and a letter that
exists with a mark takes up the mark. Texts that differ only in this have the same composed form. -/

namespace RecordWatch

namespace Composition

/-! ### The order of marks -/

/-- The class of a sign that takes the vowel from its letter. -/
def vowelKiller : Nat := 9

/-- The classes of the marks that change their places; what stands between the marks of a range is
none. -/
def classes : List (Nat × List (Nat × Nat)) :=
  [(1, [(0x334, 0x338), (0x1cd4, 0x1cd4), (0x1ce2, 0x1ce8), (0x20d2, 0x20d3), (0x20d8, 0x20da),
      (0x20e5, 0x20e6), (0x20ea, 0x20eb), (0x10a39, 0x10a39), (0x16af0, 0x16af4),
      (0x1bc9e, 0x1bc9e), (0x1d167, 0x1d169)]),
    (6, [(0x16ff0, 0x16ff1)]),
    (7, [(0x93c, 0x93c), (0x9bc, 0x9bc), (0xa3c, 0xa3c), (0xabc, 0xabc), (0xb3c, 0xb3c),
      (0xc3c, 0xc3c), (0xcbc, 0xcbc), (0x1037, 0x1037), (0x1b34, 0x1b34), (0x1be6, 0x1be6),
      (0x1c37, 0x1c37), (0xa9b3, 0xa9b3), (0x110ba, 0x110ba), (0x11173, 0x11173),
      (0x111ca, 0x111ca), (0x11236, 0x11236), (0x112e9, 0x112e9), (0x1133b, 0x1133c),
      (0x11446, 0x11446), (0x114c3, 0x114c3), (0x115c0, 0x115c0), (0x116b7, 0x116b7),
      (0x1183a, 0x1183a), (0x11943, 0x11943), (0x11d42, 0x11d42), (0x1e94a, 0x1e94a)]),
    (8, [(0x3099, 0x309a)]),
    (9, [(0x94d, 0x94d), (0x9cd, 0x9cd), (0xa4d, 0xa4d), (0xacd, 0xacd), (0xb4d, 0xb4d),
      (0xbcd, 0xbcd), (0xc4d, 0xc4d), (0xccd, 0xccd), (0xd3b, 0xd3c), (0xd4d, 0xd4d),
      (0xdca, 0xdca), (0xe3a, 0xe3a), (0xeba, 0xeba), (0xf84, 0xf84), (0x1039, 0x103a),
      (0x1714, 0x1715), (0x1734, 0x1734), (0x17d2, 0x17d2), (0x1a60, 0x1a60), (0x1b44, 0x1b44),
      (0x1baa, 0x1bab), (0x1bf2, 0x1bf3), (0x2d7f, 0x2d7f), (0xa806, 0xa806), (0xa82c, 0xa82c),
      (0xa8c4, 0xa8c4), (0xa953, 0xa953), (0xa9c0, 0xa9c0), (0xaaf6, 0xaaf6), (0xabed, 0xabed),
      (0x10a3f, 0x10a3f), (0x11046, 0x11070), (0x1107f, 0x1107f), (0x110b9, 0x110b9),
      (0x11133, 0x11134), (0x111c0, 0x111c0), (0x11235, 0x11235), (0x112ea, 0x112ea),
      (0x1134d, 0x1134d), (0x113ce, 0x113d0), (0x11442, 0x11442), (0x114c2, 0x114c2),
      (0x115bf, 0x115bf), (0x1163f, 0x1163f), (0x116b6, 0x116b6), (0x1172b, 0x1172b),
      (0x11839, 0x11839), (0x1193d, 0x1193e), (0x119e0, 0x119e0), (0x11a34, 0x11a34),
      (0x11a47, 0x11a47), (0x11a99, 0x11a99), (0x11c3f, 0x11c3f), (0x11d44, 0x11d45),
      (0x11d97, 0x11d97), (0x11f41, 0x11f42), (0x1612f, 0x1612f)]),
    (10, [(0x5b0, 0x5b0)]),
    (11, [(0x5b1, 0x5b1)]),
    (12, [(0x5b2, 0x5b2)]),
    (13, [(0x5b3, 0x5b3)]),
    (14, [(0x5b4, 0x5b4)]),
    (15, [(0x5b5, 0x5b5)]),
    (16, [(0x5b6, 0x5b6)]),
    (17, [(0x5b7, 0x5b7)]),
    (18, [(0x5b8, 0x5b8), (0x5c7, 0x5c7)]),
    (19, [(0x5b9, 0x5ba)]),
    (20, [(0x5bb, 0x5bb)]),
    (21, [(0x5bc, 0x5bc)]),
    (22, [(0x5bd, 0x5bd)]),
    (23, [(0x5bf, 0x5bf)]),
    (24, [(0x5c1, 0x5c1)]),
    (25, [(0x5c2, 0x5c2)]),
    (26, [(0xfb1e, 0xfb1e)]),
    (27, [(0x64b, 0x64b), (0x8f0, 0x8f0)]),
    (28, [(0x64c, 0x64c), (0x8f1, 0x8f1)]),
    (29, [(0x64d, 0x64d), (0x8f2, 0x8f2)]),
    (30, [(0x618, 0x618), (0x64e, 0x64e)]),
    (31, [(0x619, 0x619), (0x64f, 0x64f)]),
    (32, [(0x61a, 0x61a), (0x650, 0x650)]),
    (33, [(0x651, 0x651)]),
    (34, [(0x652, 0x652)]),
    (35, [(0x670, 0x670)]),
    (36, [(0x711, 0x711)]),
    (84, [(0xc55, 0xc55)]),
    (91, [(0xc56, 0xc56)]),
    (103, [(0xe38, 0xe39)]),
    (107, [(0xe48, 0xe4b)]),
    (118, [(0xeb8, 0xeb9)]),
    (122, [(0xec8, 0xecb)]),
    (129, [(0xf71, 0xf71)]),
    (130, [(0xf72, 0xf72), (0xf7a, 0xf7d), (0xf80, 0xf80)]),
    (132, [(0xf74, 0xf74)]),
    (202, [(0x321, 0x322), (0x327, 0x328), (0x1dd0, 0x1dd0)]),
    (214, [(0x1dce, 0x1dce)]),
    (216, [(0x31b, 0x31b), (0xf39, 0xf39), (0x1d165, 0x1d166), (0x1d16e, 0x1d172)]),
    (218, [(0x1dfa, 0x1dfa), (0x302a, 0x302a)]),
    (220, [(0x316, 0x319), (0x31c, 0x320), (0x323, 0x326), (0x329, 0x333), (0x339, 0x33c),
      (0x347, 0x349), (0x34d, 0x34e), (0x353, 0x356), (0x359, 0x35a), (0x591, 0x591),
      (0x596, 0x596), (0x59b, 0x59b), (0x5a2, 0x5a7), (0x5aa, 0x5aa), (0x5c5, 0x5c5),
      (0x655, 0x656), (0x65c, 0x65c), (0x65f, 0x65f), (0x6e3, 0x6e3), (0x6ea, 0x6ea),
      (0x6ed, 0x6ed), (0x731, 0x731), (0x734, 0x734), (0x737, 0x739), (0x73b, 0x73c),
      (0x73e, 0x73e), (0x742, 0x742), (0x744, 0x744), (0x746, 0x746), (0x748, 0x748),
      (0x7f2, 0x7f2), (0x7fd, 0x7fd), (0x859, 0x85b), (0x899, 0x89b), (0x8cf, 0x8d3),
      (0x8e3, 0x8e3), (0x8e6, 0x8e6), (0x8e9, 0x8e9), (0x8ed, 0x8ef), (0x8f6, 0x8f6),
      (0x8f9, 0x8fa), (0x952, 0x952), (0xf18, 0xf37), (0xfc6, 0xfc6), (0x108d, 0x108d),
      (0x193b, 0x193b), (0x1a18, 0x1a18), (0x1a7f, 0x1a7f), (0x1ab5, 0x1aba), (0x1abd, 0x1abd),
      (0x1abf, 0x1ac0), (0x1ac3, 0x1ac4), (0x1aca, 0x1aca), (0x1add, 0x1add), (0x1ae6, 0x1ae6),
      (0x1b6c, 0x1b6c), (0x1cd5, 0x1cd9), (0x1cdc, 0x1cdf), (0x1ced, 0x1ced), (0x1dc2, 0x1dc2),
      (0x1dca, 0x1dca), (0x1dcf, 0x1dcf), (0x1df9, 0x1df9), (0x1dfd, 0x1dfd), (0x1dff, 0x1dff),
      (0x20e8, 0x20e8), (0x20ec, 0x20ef), (0xa92b, 0xa92d), (0xaab4, 0xaab4), (0xfe27, 0xfe2d),
      (0x101fd, 0x102e0), (0x10a0d, 0x10a0d), (0x10a3a, 0x10a3a), (0x10ae6, 0x10ae6),
      (0x10efa, 0x10efb), (0x10efd, 0x10f47), (0x10f4b, 0x10f4b), (0x10f4d, 0x10f50),
      (0x10f83, 0x10f83), (0x10f85, 0x10f85), (0x1d17b, 0x1d182), (0x1d18a, 0x1d18b),
      (0x1e4ee, 0x1e4ee), (0x1e5ef, 0x1e5ef), (0x1e8d0, 0x1e8d6)]),
    (222, [(0x59a, 0x59a), (0x5ad, 0x5ad), (0x1939, 0x1939), (0x302d, 0x302d)]),
    (224, [(0x302e, 0x302f)]),
    (226, [(0x1d16d, 0x1d16d)]),
    (228, [(0x5ae, 0x5ae), (0x18a9, 0x18a9), (0x1df7, 0x1df8), (0x302b, 0x302b)]),
    (230, [(0x300, 0x314), (0x33d, 0x33f), (0x342, 0x342), (0x346, 0x346), (0x34a, 0x34c),
      (0x350, 0x352), (0x357, 0x357), (0x35b, 0x35b), (0x363, 0x487), (0x592, 0x595),
      (0x597, 0x599), (0x59c, 0x5a1), (0x5a8, 0x5a9), (0x5ab, 0x5ac), (0x5af, 0x5af),
      (0x5c4, 0x5c4), (0x610, 0x617), (0x653, 0x654), (0x657, 0x65b), (0x65d, 0x65e),
      (0x6d6, 0x6e2), (0x6e4, 0x6e8), (0x6eb, 0x6ec), (0x730, 0x730), (0x732, 0x733),
      (0x735, 0x736), (0x73a, 0x73a), (0x73d, 0x73d), (0x73f, 0x741), (0x743, 0x743),
      (0x745, 0x745), (0x747, 0x747), (0x749, 0x74a), (0x7eb, 0x7f1), (0x7f3, 0x7f3),
      (0x816, 0x82d), (0x897, 0x898), (0x89c, 0x8ce), (0x8d4, 0x8e1), (0x8e4, 0x8e5),
      (0x8e7, 0x8e8), (0x8ea, 0x8ec), (0x8f3, 0x8f5), (0x8f7, 0x8f8), (0x8fb, 0x8ff),
      (0x951, 0x951), (0x953, 0x954), (0x9fe, 0x9fe), (0xf82, 0xf83), (0xf86, 0xf87),
      (0x135d, 0x135f), (0x17dd, 0x17dd), (0x193a, 0x193a), (0x1a17, 0x1a17), (0x1a75, 0x1a7c),
      (0x1ab0, 0x1ab4), (0x1abb, 0x1abc), (0x1ac1, 0x1ac2), (0x1ac5, 0x1ac9), (0x1acb, 0x1adc),
      (0x1ae0, 0x1ae5), (0x1ae7, 0x1aea), (0x1b6b, 0x1b6b), (0x1b6d, 0x1b73), (0x1cd0, 0x1cd2),
      (0x1cda, 0x1cdb), (0x1ce0, 0x1ce0), (0x1cf4, 0x1cf4), (0x1cf8, 0x1dc1), (0x1dc3, 0x1dc9),
      (0x1dcb, 0x1dcc), (0x1dd1, 0x1df5), (0x1dfb, 0x1dfb), (0x1dfe, 0x1dfe), (0x20d0, 0x20d1),
      (0x20d4, 0x20d7), (0x20db, 0x20dc), (0x20e1, 0x20e1), (0x20e7, 0x20e7), (0x20e9, 0x20e9),
      (0x20f0, 0x2cf1), (0x2de0, 0x2dff), (0xa66f, 0xa66f), (0xa674, 0xa6f1), (0xa8e0, 0xa8f1),
      (0xaab0, 0xaab3), (0xaab7, 0xaac1), (0xfe20, 0xfe26), (0xfe2e, 0xfe2f), (0x10376, 0x1037a),
      (0x10a0f, 0x10a38), (0x10ae5, 0x10ae5), (0x10d24, 0x10eac), (0x10f48, 0x10f4a),
      (0x10f4c, 0x10f4c), (0x10f82, 0x10f82), (0x10f84, 0x10f84), (0x11100, 0x11102),
      (0x11366, 0x11374), (0x1145e, 0x1145e), (0x16b30, 0x16b36), (0x1d185, 0x1d189),
      (0x1d1aa, 0x1d244), (0x1e000, 0x1e2ef), (0x1e4ef, 0x1e5ee), (0x1e6e3, 0x1e6f5),
      (0x1e944, 0x1e949)]),
    (232, [(0x315, 0x315), (0x31a, 0x31a), (0x358, 0x358), (0x1df6, 0x1df6), (0x302c, 0x302c),
      (0x1e4ec, 0x1e4ed)]),
    (233, [(0x35c, 0x35c), (0x35f, 0x35f), (0x362, 0x362), (0x1dfc, 0x1dfc)]),
    (234, [(0x35d, 0x35e), (0x360, 0x361), (0x1aeb, 0x1aeb), (0x1dcd, 0x1dcd)]),
    (240, [(0x345, 0x345)])]

/-- The class of a character; marks of class zero and other characters stay where they are. -/
def classOf (c : Char) : Nat :=
  if isMark c then ((classes.find? fun (_, ranges) => inRanges ranges c).map Prod.fst).getD 0
  else 0

/-- A character put in front of some that are in order. -/
def place (c : Char) : List Char → List Char
  | [] => [c]
  | d :: rest =>
    if 0 < classOf d && classOf d < classOf c then d :: place c rest else c :: d :: rest

/-- The characters with the marks behind each letter in the order of their classes. -/
def arranged (text : List Char) : List Char := text.foldr place []

/-! ### Pairs -/

/-- Characters that take up others: behind the one that is taken up follow, in turn, a character and
what the two become. -/
def pairs : List (Nat × String) :=
  [(0x300, "AÀEÈIÌNǸOÒUÙWẀYỲaàeèiìnǹoòuùwẁyỳ¨῭ÂẦÊỀÔỒÜǛâầêềôồüǜĂẰăằĒḔēḕŌṐōṑƠỜơờƯỪưừΑᾺΕῈΗῊΙῚΟῸΥῪ"),
    (0x300, "ΩῺαὰεὲηὴιὶοὸυὺωὼϊῒϋῢЕЀИЍеѐиѝἀἂἁἃἈἊἉἋἐἒἑἓἘἚἙἛἠἢἡἣἨἪἩἫἰἲἱἳἸἺἹἻὀὂὁὃὈὊὉὋὐὒὑὓὙὛὠὢὡὣὨὪὩὫ"),
    (0x300, "᾿῍῾῝"),
    (0x301, "AÁCĆEÉGǴIÍKḰLĹMḾNŃOÓPṔRŔSŚUÚWẂYÝZŹaácćeégǵiíkḱlĺmḿnńoópṕrŕsśuúwẃyýzź¨΅ÂẤÅǺÆǼÇḈÊẾÏḮ"),
    (0x301, "ÔỐÕṌØǾÜǗâấåǻæǽçḉêếïḯôốõṍøǿüǘĂẮăắĒḖēḗŌṒōṓŨṸũṹƠỚơớƯỨưứΑΆΕΈΗΉΙΊΟΌΥΎΩΏαάεέηήιίοόυύωώϊΐ"),
    (0x301, "ϋΰϒϓГЃКЌгѓкќἀἄἁἅἈἌἉἍἐἔἑἕἘἜἙἝἠἤἡἥἨἬἩἭἰἴἱἵἸἼἹἽὀὄὁὅὈὌὉὍὐὔὑὕὙὝὠὤὡὥὨὬὩὭ᾿῎῾῞"),
    (0x302, "AÂCĈEÊGĜHĤIÎJĴOÔSŜUÛWŴYŶZẐaâcĉeêgĝhĥiîjĵoôsŝuûwŵyŷzẑẠẬạậẸỆẹệỌỘọộ"),
    (0x303, "AÃEẼIĨNÑOÕUŨVṼYỸaãeẽiĩnñoõuũvṽyỹÂẪÊỄÔỖâẫêễôỗĂẴăẵƠỠơỡƯỮưữ"),
    (0x304, "AĀEĒGḠIĪOŌUŪYȲaāeēgḡiīoōuūyȳÄǞÆǢÕȬÖȪÜǕäǟæǣõȭöȫüǖǪǬǫǭȦǠȧǡȮȰȯȱΑᾹΙῙΥῩαᾱιῑυῡИӢУӮиӣуӯḶḸ"),
    (0x304, "ḷḹṚṜṛṝ"),
    (0x306, "AĂEĔGĞIĬOŎUŬaăeĕgğiĭoŏuŭȨḜȩḝΑᾸΙῘΥῨαᾰιῐυῠАӐЕӖЖӁИЙУЎаӑеӗжӂийуўẠẶạặ"),
    (0x307, "AȦBḂCĊDḊEĖFḞGĠHḢIİMṀNṄOȮPṖRṘSṠTṪWẆXẊYẎZŻaȧbḃcċdḋeėfḟgġhḣmṁnṅoȯpṗrṙsṡtṫwẇxẋyẏzżŚṤśṥ"),
    (0x307, "ŠṦšṧſẛṢṨṣṩ"),
    (0x308, "AÄEËHḦIÏOÖUÜWẄXẌYŸaäeëhḧiïoötẗuüwẅxẍyÿÕṎõṏŪṺūṻΙΪΥΫιϊυϋϒϔІЇАӒЕЁЖӜЗӞИӤОӦУӰЧӴЫӸЭӬаӓеё"),
    (0x308, "жӝзӟиӥоӧуӱчӵыӹэӭіїӘӚәӛӨӪөӫ"),
    (0x309, "AẢEẺIỈOỎUỦYỶaảeẻiỉoỏuủyỷÂẨÊỂÔỔâẩêểôổĂẲăẳƠỞơởƯỬưử"),
    (0x30a, "AÅUŮaåuůwẘyẙ"),
    (0x30b, "OŐUŰoőuűУӲуӳ"),
    (0x30c, "AǍCČDĎEĚGǦHȞIǏKǨLĽNŇOǑRŘSŠTŤUǓZŽaǎcčdďeěgǧhȟiǐjǰkǩlľnňoǒrřsštťuǔzžÜǙüǚƷǮʒǯ"),
    (0x30f, "AȀEȄIȈOȌRȐUȔaȁeȅiȉoȍrȑuȕѴѶѵѷ"),
    (0x311, "AȂEȆIȊOȎRȒUȖaȃeȇiȋoȏrȓuȗ"),
    (0x313, "ΑἈΕἘΗἨΙἸΟὈΩὨαἀεἐηἠιἰοὀρῤυὐωὠ"),
    (0x314, "ΑἉΕἙΗἩΙἹΟὉΡῬΥὙΩὩαἁεἑηἡιἱοὁρῥυὑωὡ"),
    (0x31b, "OƠUƯoơuư"),
    (0x323, "AẠBḄDḌEẸHḤIỊKḲLḶMṂNṆOỌRṚSṢTṬUỤVṾWẈYỴZẒaạbḅdḍeẹhḥiịkḳlḷmṃnṇoọrṛsṣtṭuụvṿwẉyỵzẓƠỢơợƯỰ"),
    (0x323, "ưự"),
    (0x324, "UṲuṳ"),
    (0x325, "AḀaḁ"),
    (0x326, "SȘTȚsștț"),
    (0x327, "CÇDḐEȨGĢHḨKĶLĻNŅRŖSŞTŢcçdḑeȩgģhḩkķlļnņrŗsştţ"),
    (0x328, "AĄEĘIĮOǪUŲaąeęiįoǫuų"),
    (0x32d, "DḒEḘLḼNṊTṰUṶdḓeḙlḽnṋtṱuṷ"),
    (0x32e, "HḪhḫ"),
    (0x330, "EḚIḬUṴeḛiḭuṵ"),
    (0x331, "BḆDḎKḴLḺNṈRṞTṮZẔbḇdḏhẖkḵlḻnṉrṟtṯzẕ"),
    (0x338, "<≮=≠>≯←↚→↛↔↮⇐⇍⇒⇏⇔⇎∃∄∈∉∋∌∣∤∥∦∼≁≃≄≅≇≈≉≍≭≡≢≤≰≥≱≲≴≳≵≶≸≷≹≺⊀≻⊁≼⋠≽⋡⊂⊄⊃⊅⊆⊈⊇⊉⊑⋢⊒⋣⊢⊬⊨⊭⊩⊮⊫⊯⊲⋪"),
    (0x338, "⊳⋫⊴⋬⊵⋭"),
    (0x342, "¨῁αᾶηῆιῖυῦωῶϊῗϋῧἀἆἁἇἈἎἉἏἠἦἡἧἨἮἩἯἰἶἱἷἸἾἹἿὐὖὑὗὙὟὠὦὡὧὨὮὩὯ᾿῏῾῟"),
    (0x345, "ΑᾼΗῌΩῼάᾴήῄαᾳηῃωῳώῴἀᾀἁᾁἂᾂἃᾃἄᾄἅᾅἆᾆἇᾇἈᾈἉᾉἊᾊἋᾋἌᾌἍᾍἎᾎἏᾏἠᾐἡᾑἢᾒἣᾓἤᾔἥᾕἦᾖἧᾗἨᾘἩᾙἪᾚἫᾛἬᾜἭᾝἮᾞἯᾟ"),
    (0x345, "ὠᾠὡᾡὢᾢὣᾣὤᾤὥᾥὦᾦὧᾧὨᾨὩᾩὪᾪὫᾫὬᾬὭᾭὮᾮὯᾯὰᾲὴῂὼῲᾶᾷῆῇῶῷ"),
    (0x653, "\u0627\u0622"),
    (0x654, "\u0627\u0623\u0648\u0624\u064a\u0626\u06c1\u06c2\u06d2\u06d3\u06d5\u06c0"),
    (0x655, "\u0627\u0625"),
    (0x93c, "नऩरऱळऴ"),
    (0x9be, "\u09c7\u09cb"),
    (0x9d7, "\u09c7\u09cc"),
    (0xb3e, "\u0b47\u0b4b"),
    (0xb56, "\u0b47\u0b48"),
    (0xb57, "\u0b47\u0b4c"),
    (0xbbe, "\u0bc6\u0bca\u0bc7\u0bcb"),
    (0xbd7, "ஒஔ\u0bc6\u0bcc"),
    (0xc56, "\u0c46\u0c48"),
    (0xcc2, "\u0cc6\u0cca"),
    (0xcd5, "\u0cbf\u0cc0\u0cc6\u0cc7\u0cca\u0ccb"),
    (0xcd6, "\u0cc6\u0cc8"),
    (0xd3e, "\u0d46\u0d4a\u0d47\u0d4b"),
    (0xd57, "\u0d46\u0d4c"),
    (0xdca, "\u0dd9\u0dda\u0ddc\u0ddd"),
    (0xdcf, "\u0dd9\u0ddc"),
    (0xddf, "\u0dd9\u0dde"),
    (0x102e, "ဥဦ"),
    (0x1b35, "ᬅᬆᬇᬈᬉᬊᬋᬌᬍᬎᬑᬒ\u1b3a\u1b3b\u1b3c\u1b3d\u1b3e\u1b40\u1b3f\u1b41\u1b42\u1b43"),
    (0x3099, "うゔかがきぎくぐけげこごさざしじすずせぜそぞただちぢつづてでとどはばひびふぶへべほぼゝゞウヴカガキギクグケゲコゴサザシジスズセゼソゾタダチヂツヅテデトドハバヒビ"),
    (0x3099, "フブヘベホボワヷヰヸヱヹヲヺヽヾ"),
    (0x309a, "はぱひぴふぷへぺほぽハパヒピフプヘペホポ")]

/-- The same for characters behind the first plane: what is taken up, what takes it up, and what
the two become. -/
def laterPairs : List (Nat × Nat × Nat) :=
  [(0x307, 0x105d2, 0x105c9), (0x307, 0x105da, 0x105e4), (0x110ba, 0x11099, 0x1109a),
    (0x110ba, 0x1109b, 0x1109c), (0x110ba, 0x110a5, 0x110ab), (0x11127, 0x11131, 0x1112e),
    (0x11127, 0x11132, 0x1112f), (0x1133e, 0x11347, 0x1134b), (0x11357, 0x11347, 0x1134c),
    (0x113c9, 0x11382, 0x11383), (0x113bb, 0x11384, 0x11385), (0x113c2, 0x1138b, 0x1138e),
    (0x113c9, 0x11390, 0x11391), (0x113c2, 0x113c2, 0x113c5), (0x113b8, 0x113c2, 0x113c7),
    (0x113c9, 0x113c2, 0x113c8), (0x114ba, 0x114b9, 0x114bb), (0x114b0, 0x114b9, 0x114bc),
    (0x114bd, 0x114b9, 0x114be), (0x115af, 0x115b8, 0x115ba), (0x115af, 0x115b9, 0x115bb),
    (0x11930, 0x11935, 0x11938), (0x1611e, 0x1611e, 0x16121), (0x16129, 0x1611e, 0x16122),
    (0x1611f, 0x1611e, 0x16123), (0x1611f, 0x16129, 0x16124), (0x16120, 0x1611e, 0x16125),
    (0x1611f, 0x16121, 0x16126), (0x1611f, 0x16122, 0x16127), (0x16120, 0x16121, 0x16128),
    (0x16d67, 0x16d67, 0x16d68), (0x16d67, 0x16d63, 0x16d69), (0x16d67, 0x16d69, 0x16d6a)]

/-- What a character and another become, among characters that alternate with what they become. -/
def become? (c : Char) : List Char → Option Char
  | first :: whole :: rest => if c = first then some whole else become? c rest
  | _ => none

/-- What became a character, among characters that alternate with what they become. -/
def origin? (c : Char) : List Char → Option Char
  | first :: whole :: rest => if c = whole then some first else origin? c rest
  | _ => none

/-! Syllables of the Korean script are counted through: their leading sounds, vowels and trailing
sounds follow each other, and so do the syllables. -/

/-- The first syllable and how many there are. -/
def syllables : Nat × Nat := (0xac00, 11172)

/-- The first leading sound and how many there are. -/
def leads : Nat × Nat := (0x1100, 19)

/-- The first vowel and how many there are. -/
def vowels : Nat × Nat := (0x1161, 21)

/-- What stands before the first trailing sound, and how many choices that makes with none. -/
def trails : Nat × Nat := (0x11a7, 28)

/-- The place of a character in a series. -/
def index? (series : Nat × Nat) (c : Char) : Option Nat :=
  if series.1 ≤ c.toNat && c.toNat < series.1 + series.2 then some (c.toNat - series.1) else none

/-- The syllable of a leading sound and a vowel, or of such a syllable and a trailing sound. -/
def syllable? (c d : Char) : Option Char :=
  match index? leads c, index? vowels d, index? syllables c, index? trails d with
  | some lead, some vowel, _, _ =>
    some (Char.ofNat (syllables.1 + (lead * vowels.2 + vowel) * trails.2))
  | _, _, some syllable, some trail =>
    if syllable % trails.2 = 0 && 0 < trail then some (Char.ofNat (syllables.1 + syllable + trail))
    else none
  | _, _, _, _ => none

/-- The sounds of a syllable. -/
def sounds? (c : Char) : Option (List Char) :=
  (index? syllables c).map fun syllable =>
    let trail := syllable % trails.2
    [Char.ofNat (leads.1 + syllable / (trails.2 * vowels.2)),
      Char.ofNat (vowels.1 + syllable / trails.2 % vowels.2)] ++
      (if trail = 0 then [] else [Char.ofNat (trails.1 + trail)])

/-- What a character and the one behind it become. -/
def whole? (c d : Char) : Option Char :=
  (syllable? c d).or
    (((pairs.filter fun (other, _) => other = d.toNat).findSome? fun (_, text) =>
      become? c text.toList).or
    ((laterPairs.find? fun (other, first, _) => other = d.toNat && first = c.toNat).map
      fun (_, _, whole) => Char.ofNat whole))

/-- The two characters that become a character. -/
def halves? (c : Char) : Option (Char × Char) :=
  (pairs.findSome? fun (other, text) =>
    (origin? c text.toList).map fun first => (first, Char.ofNat other)).or
  ((laterPairs.find? fun (_, _, whole) => whole = c.toNat).map fun (other, first, _) =>
    (Char.ofNat first, Char.ofNat other))

/-! ### Texts -/

/-- The letter and the marks that a character is made of, at most `limit` marks deep. -/
def taken : Nat → Char → List Char
  | 0, c => [c]
  | limit + 1, c =>
    match sounds? c, halves? c with
    | some sounds, _ => sounds
    | none, some (first, other) => taken limit first ++ [other]
    | none, none => [c]

/-- How many marks a character can have taken up. -/
def maxMarks : Nat := 4

/-- A letter with what it takes up of the characters behind it, of which those in `kept`, latest
first, it does not. Behind a mark of the same class or a higher one a mark is not taken up. -/
def joined (letter : Char) (kept : List Char) : List Char → List Char
  | [] => letter :: kept.reverse
  | c :: rest =>
    match if kept.head?.any (classOf c ≤ classOf ·) then none else whole? letter c with
    | some whole => joined whole kept rest
    | none =>
      if classOf c = 0 then letter :: kept.reverse ++ joined c [] rest
      else joined letter (c :: kept) rest

/-- The composed form of a text. -/
def composed (text : List Char) : List Char :=
  match arranged (text.flatMap (taken maxMarks)) with
  | [] => []
  | c :: rest => joined c [] rest

end Composition

end RecordWatch
