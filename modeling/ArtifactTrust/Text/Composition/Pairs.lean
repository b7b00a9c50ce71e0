import ArtifactTrust.Text.Cut

/-!
# Composed characters

The characters that are made of two others: a first one, which other characters combine with,
and a second one, which combines. The syllables of Hangul, which are made by rule, are not
among them.
-/

namespace ArtifactTrust.Text.Composition

set_option autoImplicit false

/-- Second characters, each with pairs of a first character and what the two make. -/
def pairTexts : List (Nat × String) :=
   [(0x300, "AÀ EÈ IÌ OÒ UÙ aà eè iì oò uù ÜǛ üǜ NǸ nǹ ЕЀ ИЍ еѐ иѝ ĒḔ ēḕ ŌṐ ōṑ WẀ wẁ ÂẦ âầ"),
    (0x300, "ĂẰ ăằ ÊỀ êề ÔỒ ôồ ƠỜ ơờ ƯỪ ưừ YỲ yỳ ἀἂ ἁἃ ἈἊ ἉἋ ἐἒ ἑἓ ἘἚ ἙἛ ἠἢ ἡἣ ἨἪ ἩἫ ἰἲ ἱἳ"),
    (0x300, "ἸἺ ἹἻ ὀὂ ὁὃ ὈὊ ὉὋ ὐὒ ὑὓ ὙὛ ὠὢ ὡὣ ὨὪ ὩὫ αὰ εὲ ηὴ ιὶ οὸ υὺ ωὼ ΑᾺ ΕῈ ΗῊ ᾿῍ ϊῒ ΙῚ"),
    (0x300, "῾῝ ϋῢ ΥῪ ¨῭ ΟῸ ΩῺ"),
    (0x301, "AÁ EÉ IÍ OÓ UÚ YÝ aá eé ií oó uú yý CĆ cć LĹ lĺ NŃ nń RŔ rŕ SŚ sś ZŹ zź ÜǗ üǘ"),
    (0x301, "GǴ gǵ ÅǺ åǻ ÆǼ æǽ ØǾ øǿ ¨΅ ΑΆ ΕΈ ΗΉ ΙΊ ΟΌ ΥΎ ΩΏ ϊΐ αά εέ ηή ιί ϋΰ οό υύ ωώ ϒϓ"),
    (0x301, "ГЃ КЌ гѓ кќ ÇḈ çḉ ĒḖ ēḗ ÏḮ ïḯ KḰ kḱ MḾ mḿ ÕṌ õṍ ŌṒ ōṓ PṔ pṕ ŨṸ ũṹ WẂ wẃ ÂẤ âấ"),
    (0x301, "ĂẮ ăắ ÊẾ êế ÔỐ ôố ƠỚ ơớ ƯỨ ưứ ἀἄ ἁἅ ἈἌ ἉἍ ἐἔ ἑἕ ἘἜ ἙἝ ἠἤ ἡἥ ἨἬ ἩἭ ἰἴ ἱἵ ἸἼ ἹἽ"),
    (0x301, "ὀὄ ὁὅ ὈὌ ὉὍ ὐὔ ὑὕ ὙὝ ὠὤ ὡὥ ὨὬ ὩὭ ᾿῎ ῾῞"),
    (0x302, "AÂ EÊ IÎ OÔ UÛ aâ eê iî oô uû CĈ cĉ GĜ gĝ HĤ hĥ JĴ jĵ SŜ sŝ WŴ wŵ YŶ yŷ ZẐ zẑ"),
    (0x302, "ẠẬ ạậ ẸỆ ẹệ ỌỘ ọộ"),
    (0x303, "AÃ NÑ OÕ aã nñ oõ IĨ iĩ UŨ uũ VṼ vṽ ÂẪ âẫ ĂẴ ăẵ EẼ eẽ ÊỄ êễ ÔỖ ôỗ ƠỠ ơỡ ƯỮ ưữ"),
    (0x303, "YỸ yỹ"),
    (0x304, "AĀ aā EĒ eē IĪ iī OŌ oō UŪ uū ÜǕ üǖ ÄǞ äǟ ȦǠ ȧǡ ÆǢ æǣ ǪǬ ǫǭ ÖȪ öȫ ÕȬ õȭ ȮȰ ȯȱ"),
    (0x304, "YȲ yȳ ИӢ иӣ УӮ уӯ GḠ gḡ ḶḸ ḷḹ ṚṜ ṛṝ αᾱ ΑᾹ ιῑ ΙῙ υῡ ΥῩ"),
    (0x306, "AĂ aă EĔ eĕ GĞ gğ IĬ iĭ OŎ oŏ UŬ uŭ УЎ ИЙ ий уў ЖӁ жӂ АӐ аӑ ЕӖ еӗ ȨḜ ȩḝ ẠẶ ạặ"),
    (0x306, "αᾰ ΑᾸ ιῐ ΙῘ υῠ ΥῨ"),
    (0x307, "CĊ cċ EĖ eė GĠ gġ Iİ ZŻ zż AȦ aȧ OȮ oȯ BḂ bḃ DḊ dḋ FḞ fḟ HḢ hḣ MṀ mṁ NṄ nṅ PṖ"),
    (0x307, "pṗ RṘ rṙ SṠ sṡ ŚṤ śṥ ŠṦ šṧ ṢṨ ṣṩ TṪ tṫ WẆ wẇ XẊ xẋ YẎ yẏ ſẛ 𐗒𐗉 𐗚𐗤"),
    (0x308, "AÄ EË IÏ OÖ UÜ aä eë iï oö uü yÿ YŸ ΙΪ ΥΫ ιϊ υϋ ϒϔ ЕЁ ІЇ её ії АӒ аӓ ӘӚ әӛ ЖӜ"),
    (0x308, "жӝ ЗӞ зӟ ИӤ иӥ ОӦ оӧ ӨӪ өӫ ЭӬ эӭ УӰ уӱ ЧӴ чӵ ЫӸ ыӹ HḦ hḧ ÕṎ õṏ ŪṺ ūṻ WẄ wẅ XẌ"),
    (0x308, "xẍ tẗ"),
    (0x309, "AẢ aả ÂẨ âẩ ĂẲ ăẳ EẺ eẻ ÊỂ êể IỈ iỉ OỎ oỏ ÔỔ ôổ ƠỞ ơở UỦ uủ ƯỬ ưử YỶ yỷ"),
    (0x30a, "AÅ aå UŮ uů wẘ yẙ"),
    (0x30b, "OŐ oő UŰ uű УӲ уӳ"),
    (0x30c, "CČ cč DĎ dď EĚ eě LĽ lľ NŇ nň RŘ rř SŠ sš TŤ tť ZŽ zž AǍ aǎ IǏ iǐ OǑ oǒ UǓ uǔ"),
    (0x30c, "ÜǙ üǚ GǦ gǧ KǨ kǩ ƷǮ ʒǯ jǰ HȞ hȟ"),
    (0x30f, "AȀ aȁ EȄ eȅ IȈ iȉ OȌ oȍ RȐ rȑ UȔ uȕ ѴѶ ѵѷ"),
    (0x311, "AȂ aȃ EȆ eȇ IȊ iȋ OȎ oȏ RȒ rȓ UȖ uȗ"),
    (0x313, "αἀ ΑἈ εἐ ΕἘ ηἠ ΗἨ ιἰ ΙἸ οὀ ΟὈ υὐ ωὠ ΩὨ ρῤ"),
    (0x314, "αἁ ΑἉ εἑ ΕἙ ηἡ ΗἩ ιἱ ΙἹ οὁ ΟὉ υὑ ΥὙ ωὡ ΩὩ ρῥ ΡῬ"),
    (0x31b, "OƠ oơ UƯ uư"),
    (0x323, "BḄ bḅ DḌ dḍ HḤ hḥ KḲ kḳ LḶ lḷ MṂ mṃ NṆ nṇ RṚ rṛ SṢ sṣ TṬ tṭ VṾ vṿ WẈ wẉ ZẒ zẓ"),
    (0x323, "AẠ aạ EẸ eẹ IỊ iị OỌ oọ ƠỢ ơợ UỤ uụ ƯỰ ưự YỴ yỵ"),
    (0x324, "UṲ uṳ"),
    (0x325, "AḀ aḁ"),
    (0x326, "SȘ sș TȚ tț"),
    (0x327, "CÇ cç GĢ gģ KĶ kķ LĻ lļ NŅ nņ RŖ rŗ SŞ sş TŢ tţ EȨ eȩ DḐ dḑ HḨ hḩ"),
    (0x328, "AĄ aą EĘ eę IĮ iį UŲ uų OǪ oǫ"),
    (0x32d, "DḒ dḓ EḘ eḙ LḼ lḽ NṊ nṋ TṰ tṱ UṶ uṷ"),
    (0x32e, "HḪ hḫ"),
    (0x330, "EḚ eḛ IḬ iḭ UṴ uṵ"),
    (0x331, "BḆ bḇ DḎ dḏ KḴ kḵ LḺ lḻ NṈ nṉ RṞ rṟ TṮ tṯ ZẔ zẕ hẖ"),
    (0x338, "←↚ →↛ ↔↮ ⇐⇍ ⇔⇎ ⇒⇏ ∃∄ ∈∉ ∋∌ ∣∤ ∥∦ ∼≁ ≃≄ ≅≇ ≈≉ =≠ ≡≢ ≍≭ <≮ >≯ ≤≰ ≥≱ ≲≴ ≳≵ ≶≸ ≷≹"),
    (0x338, "≺⊀ ≻⊁ ⊂⊄ ⊃⊅ ⊆⊈ ⊇⊉ ⊢⊬ ⊨⊭ ⊩⊮ ⊫⊯ ≼⋠ ≽⋡ ⊑⋢ ⊒⋣ ⊲⋪ ⊳⋫ ⊴⋬ ⊵⋭"),
    (0x342, "ἀἆ ἁἇ ἈἎ ἉἏ ἠἦ ἡἧ ἨἮ ἩἯ ἰἶ ἱἷ ἸἾ ἹἿ ὐὖ ὑὗ ὙὟ ὠὦ ὡὧ ὨὮ ὩὯ αᾶ ¨῁ ηῆ ᾿῏ ιῖ ϊῗ ῾῟"),
    (0x342, "υῦ ϋῧ ωῶ"),
    (0x345, "ἀᾀ ἁᾁ ἂᾂ ἃᾃ ἄᾄ ἅᾅ ἆᾆ ἇᾇ Ἀᾈ Ἁᾉ Ἂᾊ Ἃᾋ Ἄᾌ Ἅᾍ Ἆᾎ Ἇᾏ ἠᾐ ἡᾑ ἢᾒ ἣᾓ ἤᾔ ἥᾕ ἦᾖ ἧᾗ Ἠᾘ Ἡᾙ"),
    (0x345, "Ἢᾚ Ἣᾛ Ἤᾜ Ἥᾝ Ἦᾞ Ἧᾟ ὠᾠ ὡᾡ ὢᾢ ὣᾣ ὤᾤ ὥᾥ ὦᾦ ὧᾧ Ὠᾨ Ὡᾩ Ὢᾪ Ὣᾫ Ὤᾬ Ὥᾭ Ὦᾮ Ὧᾯ ὰᾲ αᾳ άᾴ ᾶᾷ"),
    (0x345, "Αᾼ ὴῂ ηῃ ήῄ ῆῇ Ηῌ ὼῲ ωῳ ώῴ ῶῷ Ωῼ"),
    (0x653, "اآ"),
    (0x654, "اأ وؤ يئ ەۀ ہۂ ےۓ"),
    (0x655, "اإ"),
    (0x93c, "नऩ रऱ ळऴ"),
    (0x9be, "েো"),
    (0x9d7, "েৌ"),
    (0xb3e, "େୋ"),
    (0xb56, "େୈ"),
    (0xb57, "େୌ"),
    (0xbbe, "ெொ ேோ"),
    (0xbd7, "ஒஔ ெௌ"),
    (0xc56, "ెై"),
    (0xcc2, "ೆೊ"),
    (0xcd5, "ಿೀ ೆೇ ೊೋ"),
    (0xcd6, "ೆೈ"),
    (0xd3e, "െൊ േോ"),
    (0xd57, "െൌ"),
    (0xdca, "ෙේ ොෝ"),
    (0xdcf, "ෙො"),
    (0xddf, "ෙෞ"),
    (0x102e, "ဥဦ"),
    (0x1b35, "ᬅᬆ ᬇᬈ ᬉᬊ ᬋᬌ ᬍᬎ ᬑᬒ ᬺᬻ ᬼᬽ ᬾᭀ ᬿᭁ ᭂᭃ"),
    (0x3099, "かが きぎ くぐ けげ こご さざ しじ すず せぜ そぞ ただ ちぢ つづ てで とど はば ひび ふぶ へべ ほぼ うゔ ゝゞ カガ キギ クグ ケゲ"),
    (0x3099, "コゴ サザ シジ スズ セゼ ソゾ タダ チヂ ツヅ テデ トド ハバ ヒビ フブ ヘベ ホボ ウヴ ワヷ ヰヸ ヱヹ ヲヺ ヽヾ"),
    (0x309a, "はぱ ひぴ ふぷ へぺ ほぽ ハパ ヒピ フプ ヘペ ホポ"),
    (0x110ba, "𑂙𑂚 𑂛𑂜 𑂥𑂫"),
    (0x11127, "𑄱𑄮 𑄲𑄯"),
    (0x1133e, "𑍇𑍋"),
    (0x11357, "𑍇𑍌"),
    (0x113b8, "𑏅𑎸"),
    (0x113bb, "𑎄𑎅"),
    (0x113c2, "𑎋𑎎 𑏅𑏂"),
    (0x113c9, "𑎂𑎃 𑎐𑎑 𑏅𑏉"),
    (0x114b0, "𑒹𑒼"),
    (0x114ba, "𑒹𑒻"),
    (0x114bd, "𑒹𑒾"),
    (0x115af, "𑖸𑖺 𑖹𑖻"),
    (0x11930, "𑤵𑤸"),
    (0x1611e, "𖄡𖄞"),
    (0x1611f, "𖄦 𖄩𖄤 𖄡𖄦 𖄢𖄧"),
    (0x16120, "𖄨 𖄡𖄨"),
    (0x16129, "𖄡𖄩"),
    (0x16d67, "𖵨𖵧 𖵣𖵩 𖵩𖵪")]

def pairsIn (text : String) : List (Char × Char) :=
  (pieces ' ' text.toList).filterMap fun
    | [first, whole] => some (first, whole)
    | _ => none

def pair? (first second : Char) : Option Char :=
  (pairTexts.filter fun entry => entry.1 = second.toNat).findSome? fun entry =>
    (pairsIn entry.2).lookup first

def parts? (whole : Char) : Option (Char × Char) :=
  pairTexts.findSome? fun entry =>
    ((pairsIn entry.2).find? fun p => p.2 = whole).map fun p => (p.1, Char.ofNat entry.1)

end ArtifactTrust.Text.Composition
