import PresenceGateway.Text.Blank
import PresenceGateway.Text.Mark
/-!
Composed text: letters and marks joined into single characters wherever there is one.

A text is taken apart into letters and marks, the marks after a letter are put in the order of their
combining classes, and then each mark is joined to its letter unless another one is in its way.
Syllables of the Korean script are joined by calculation. Characters that are taken apart for good
are not known here.
-/
namespace PresenceGateway.Text

/-- The joined characters. A row gives, for the mark of a code point, words of a letter and the
character that stands for the letter with the mark. -/
def joinedRows : List (Nat × String) := [
  (0x0300, "AÀ EÈ IÌ NǸ OÒ UÙ WẀ YỲ aà eè iì nǹ oò uù wẁ yỳ ¨῭ ÂẦ ÊỀ ÔỒ ÜǛ âầ êề ôồ üǜ ĂẰ ăằ ĒḔ"),
  (0x0300, "ēḕ ŌṐ ōṑ ƠỜ ơờ ƯỪ ưừ ΑᾺ ΕῈ ΗῊ ΙῚ ΟῸ ΥῪ ΩῺ αὰ εὲ ηὴ ιὶ οὸ υὺ ωὼ ϊῒ ϋῢ ЕЀ ИЍ еѐ иѝ ἀἂ"),
  (0x0300, "ἁἃ ἈἊ ἉἋ ἐἒ ἑἓ ἘἚ ἙἛ ἠἢ ἡἣ ἨἪ ἩἫ ἰἲ ἱἳ ἸἺ ἹἻ ὀὂ ὁὃ ὈὊ ὉὋ ὐὒ ὑὓ ὙὛ ὠὢ ὡὣ ὨὪ ὩὫ ᾿῍ ῾῝"),
  (0x0301, "AÁ CĆ EÉ GǴ IÍ KḰ LĹ MḾ NŃ OÓ PṔ RŔ SŚ UÚ WẂ YÝ ZŹ aá cć eé gǵ ií kḱ lĺ mḿ nń oó pṕ"),
  (0x0301, "rŕ sś uú wẃ yý zź ¨΅ ÂẤ ÅǺ ÆǼ ÇḈ ÊẾ ÏḮ ÔỐ ÕṌ ØǾ ÜǗ âấ åǻ æǽ çḉ êế ïḯ ôố õṍ øǿ üǘ ĂẮ"),
  (0x0301, "ăắ ĒḖ ēḗ ŌṒ ōṓ ŨṸ ũṹ ƠỚ ơớ ƯỨ ưứ ΑΆ ΕΈ ΗΉ ΙΊ ΟΌ ΥΎ ΩΏ αά εέ ηή ιί οό υύ ωώ ϊΐ ϋΰ ϒϓ"),
  (0x0301, "ГЃ КЌ гѓ кќ ἀἄ ἁἅ ἈἌ ἉἍ ἐἔ ἑἕ ἘἜ ἙἝ ἠἤ ἡἥ ἨἬ ἩἭ ἰἴ ἱἵ ἸἼ ἹἽ ὀὄ ὁὅ ὈὌ ὉὍ ὐὔ ὑὕ ὙὝ ὠὤ"),
  (0x0301, "ὡὥ ὨὬ ὩὭ ᾿῎ ῾῞"),
  (0x0302, "AÂ CĈ EÊ GĜ HĤ IÎ JĴ OÔ SŜ UÛ WŴ YŶ ZẐ aâ cĉ eê gĝ hĥ iî jĵ oô sŝ uû wŵ yŷ zẑ ẠẬ ạậ"),
  (0x0302, "ẸỆ ẹệ ỌỘ ọộ"),
  (0x0303, "AÃ EẼ IĨ NÑ OÕ UŨ VṼ YỸ aã eẽ iĩ nñ oõ uũ vṽ yỹ ÂẪ ÊỄ ÔỖ âẫ êễ ôỗ ĂẴ ăẵ ƠỠ ơỡ ƯỮ ưữ"),
  (0x0304, "AĀ EĒ GḠ IĪ OŌ UŪ YȲ aā eē gḡ iī oō uū yȳ ÄǞ ÆǢ ÕȬ ÖȪ ÜǕ äǟ æǣ õȭ öȫ üǖ ǪǬ ǫǭ ȦǠ ȧǡ"),
  (0x0304, "ȮȰ ȯȱ ΑᾹ ΙῙ ΥῩ αᾱ ιῑ υῡ ИӢ УӮ иӣ уӯ ḶḸ ḷḹ ṚṜ ṛṝ"),
  (0x0306, "AĂ EĔ GĞ IĬ OŎ UŬ aă eĕ gğ iĭ oŏ uŭ ȨḜ ȩḝ ΑᾸ ΙῘ ΥῨ αᾰ ιῐ υῠ АӐ ЕӖ ЖӁ ИЙ УЎ аӑ еӗ жӂ"),
  (0x0306, "ий уў ẠẶ ạặ"),
  (0x0307, "AȦ BḂ CĊ DḊ EĖ FḞ GĠ HḢ Iİ MṀ NṄ OȮ PṖ RṘ SṠ TṪ WẆ XẊ YẎ ZŻ aȧ bḃ cċ dḋ eė fḟ gġ hḣ"),
  (0x0307, "mṁ nṅ oȯ pṗ rṙ sṡ tṫ wẇ xẋ yẏ zż ŚṤ śṥ ŠṦ šṧ ſẛ ṢṨ ṣṩ 𐗒𐗉 𐗚𐗤"),
  (0x0308, "AÄ EË HḦ IÏ OÖ UÜ WẄ XẌ YŸ aä eë hḧ iï oö tẗ uü wẅ xẍ yÿ ÕṎ õṏ ŪṺ ūṻ ΙΪ ΥΫ ιϊ υϋ ϒϔ"),
  (0x0308, "ІЇ АӒ ЕЁ ЖӜ ЗӞ ИӤ ОӦ УӰ ЧӴ ЫӸ ЭӬ аӓ её жӝ зӟ иӥ оӧ уӱ чӵ ыӹ эӭ ії ӘӚ әӛ ӨӪ өӫ"),
  (0x0309, "AẢ EẺ IỈ OỎ UỦ YỶ aả eẻ iỉ oỏ uủ yỷ ÂẨ ÊỂ ÔỔ âẩ êể ôổ ĂẲ ăẳ ƠỞ ơở ƯỬ ưử"),
  (0x030A, "AÅ UŮ aå uů wẘ yẙ"),
  (0x030B, "OŐ UŰ oő uű УӲ уӳ"),
  (0x030C, "AǍ CČ DĎ EĚ GǦ HȞ IǏ KǨ LĽ NŇ OǑ RŘ SŠ TŤ UǓ ZŽ aǎ cč dď eě gǧ hȟ iǐ jǰ kǩ lľ nň oǒ"),
  (0x030C, "rř sš tť uǔ zž ÜǙ üǚ ƷǮ ʒǯ"),
  (0x030F, "AȀ EȄ IȈ OȌ RȐ UȔ aȁ eȅ iȉ oȍ rȑ uȕ ѴѶ ѵѷ"),
  (0x0311, "AȂ EȆ IȊ OȎ RȒ UȖ aȃ eȇ iȋ oȏ rȓ uȗ"),
  (0x0313, "ΑἈ ΕἘ ΗἨ ΙἸ ΟὈ ΩὨ αἀ εἐ ηἠ ιἰ οὀ ρῤ υὐ ωὠ"),
  (0x0314, "ΑἉ ΕἙ ΗἩ ΙἹ ΟὉ ΡῬ ΥὙ ΩὩ αἁ εἑ ηἡ ιἱ οὁ ρῥ υὑ ωὡ"),
  (0x031B, "OƠ UƯ oơ uư"),
  (0x0323, "AẠ BḄ DḌ EẸ HḤ IỊ KḲ LḶ MṂ NṆ OỌ RṚ SṢ TṬ UỤ VṾ WẈ YỴ ZẒ aạ bḅ dḍ eẹ hḥ iị kḳ lḷ mṃ"),
  (0x0323, "nṇ oọ rṛ sṣ tṭ uụ vṿ wẉ yỵ zẓ ƠỢ ơợ ƯỰ ưự"),
  (0x0324, "UṲ uṳ"),
  (0x0325, "AḀ aḁ"),
  (0x0326, "SȘ TȚ sș tț"),
  (0x0327, "CÇ DḐ EȨ GĢ HḨ KĶ LĻ NŅ RŖ SŞ TŢ cç dḑ eȩ gģ hḩ kķ lļ nņ rŗ sş tţ"),
  (0x0328, "AĄ EĘ IĮ OǪ UŲ aą eę iį oǫ uų"),
  (0x032D, "DḒ EḘ LḼ NṊ TṰ UṶ dḓ eḙ lḽ nṋ tṱ uṷ"),
  (0x032E, "HḪ hḫ"),
  (0x0330, "EḚ IḬ UṴ eḛ iḭ uṵ"),
  (0x0331, "BḆ DḎ KḴ LḺ NṈ RṞ TṮ ZẔ bḇ dḏ hẖ kḵ lḻ nṉ rṟ tṯ zẕ"),
  (0x0338, "<≮ =≠ >≯ ←↚ →↛ ↔↮ ⇐⇍ ⇒⇏ ⇔⇎ ∃∄ ∈∉ ∋∌ ∣∤ ∥∦ ∼≁ ≃≄ ≅≇ ≈≉ ≍≭ ≡≢ ≤≰ ≥≱ ≲≴ ≳≵ ≶≸ ≷≹ ≺⊀ ≻⊁"),
  (0x0338, "≼⋠ ≽⋡ ⊂⊄ ⊃⊅ ⊆⊈ ⊇⊉ ⊑⋢ ⊒⋣ ⊢⊬ ⊨⊭ ⊩⊮ ⊫⊯ ⊲⋪ ⊳⋫ ⊴⋬ ⊵⋭"),
  (0x0342, "¨῁ αᾶ ηῆ ιῖ υῦ ωῶ ϊῗ ϋῧ ἀἆ ἁἇ ἈἎ ἉἏ ἠἦ ἡἧ ἨἮ ἩἯ ἰἶ ἱἷ ἸἾ ἹἿ ὐὖ ὑὗ ὙὟ ὠὦ ὡὧ ὨὮ ὩὯ ᾿῏"),
  (0x0342, "῾῟"),
  (0x0345, "Αᾼ Ηῌ Ωῼ άᾴ ήῄ αᾳ ηῃ ωῳ ώῴ ἀᾀ ἁᾁ ἂᾂ ἃᾃ ἄᾄ ἅᾅ ἆᾆ ἇᾇ Ἀᾈ Ἁᾉ Ἂᾊ Ἃᾋ Ἄᾌ Ἅᾍ Ἆᾎ Ἇᾏ ἠᾐ ἡᾑ ἢᾒ"),
  (0x0345, "ἣᾓ ἤᾔ ἥᾕ ἦᾖ ἧᾗ Ἠᾘ Ἡᾙ Ἢᾚ Ἣᾛ Ἤᾜ Ἥᾝ Ἦᾞ Ἧᾟ ὠᾠ ὡᾡ ὢᾢ ὣᾣ ὤᾤ ὥᾥ ὦᾦ ὧᾧ Ὠᾨ Ὡᾩ Ὢᾪ Ὣᾫ Ὤᾬ Ὥᾭ Ὦᾮ"),
  (0x0345, "Ὧᾯ ὰᾲ ὴῂ ὼῲ ᾶᾷ ῆῇ ῶῷ"),
  (0x0653, "اآ"),
  (0x0654, "اأ وؤ يئ ہۂ ےۓ ەۀ"),
  (0x0655, "اإ"),
  (0x093C, "नऩ रऱ ळऴ"),
  (0x09BE, "েো"),
  (0x09D7, "েৌ"),
  (0x0B3E, "େୋ"),
  (0x0B56, "େୈ"),
  (0x0B57, "େୌ"),
  (0x0BBE, "ெொ ேோ"),
  (0x0BD7, "ஒஔ ெௌ"),
  (0x0C56, "ెై"),
  (0x0CC2, "ೆೊ"),
  (0x0CD5, "ಿೀ ೆೇ ೊೋ"),
  (0x0CD6, "ೆೈ"),
  (0x0D3E, "െൊ േോ"),
  (0x0D57, "െൌ"),
  (0x0DCA, "ෙේ ොෝ"),
  (0x0DCF, "ෙො"),
  (0x0DDF, "ෙෞ"),
  (0x102E, "ဥဦ"),
  (0x1B35, "ᬅᬆ ᬇᬈ ᬉᬊ ᬋᬌ ᬍᬎ ᬑᬒ ᬺᬻ ᬼᬽ ᬾᭀ ᬿᭁ ᭂᭃ"),
  (0x3099, "うゔ かが きぎ くぐ けげ こご さざ しじ すず せぜ そぞ ただ ちぢ つづ てで とど はば ひび ふぶ へべ ほぼ ゝゞ ウヴ カガ キギ クグ ケゲ コゴ"),
  (0x3099, "サザ シジ スズ セゼ ソゾ タダ チヂ ツヅ テデ トド ハバ ヒビ フブ ヘベ ホボ ワヷ ヰヸ ヱヹ ヲヺ ヽヾ"),
  (0x309A, "はぱ ひぴ ふぷ へぺ ほぽ ハパ ヒピ フプ ヘペ ホポ"),
  (0x110BA, "𑂙𑂚 𑂛𑂜 𑂥𑂫"),
  (0x11127, "𑄱𑄮 𑄲𑄯"),
  (0x1133E, "𑍇𑍋"),
  (0x11357, "𑍇𑍌"),
  (0x113B8, "𑏅𑎸"),
  (0x113BB, "𑎄𑎅"),
  (0x113C2, "𑎋𑎎 𑏅𑏂"),
  (0x113C9, "𑎂𑎃 𑎐𑎑 𑏅𑏉"),
  (0x114B0, "𑒹𑒼"),
  (0x114BA, "𑒹𑒻"),
  (0x114BD, "𑒹𑒾"),
  (0x115AF, "𑖸𑖺 𑖹𑖻"),
  (0x11930, "𑤵𑤸"),
  (0x1611E, "𖄡𖄞"),
  (0x1611F, "𖄦 𖄡𖄦 𖄢𖄧 𖄩𖄤"),
  (0x16120, "𖄨 𖄡𖄨"),
  (0x16129, "𖄡𖄩"),
  (0x16D67, "𖵣𖵩 𖵨𖵧 𖵩𖵪")]

def joinedPair? : List Char → Option (Char × Char)
  | [letter, joined] => some (letter, joined)
  | _ => none

def joinedPairs (row : Nat × String) : List (Char × Char) :=
  (splitChars ' ' row.2.toList).filterMap joinedPair?

/-- The syllable of a leading consonant and a vowel, or of such a syllable and a final consonant. -/
def joinSyllable? (first second : Nat) : Option Char :=
  if 0x1100 ≤ first ∧ first < 0x1113 ∧ 0x1161 ≤ second ∧ second < 0x1176 then
    some (Char.ofNat (0xAC00 + ((first - 0x1100) * 21 + (second - 0x1161)) * 28))
  else if 0xAC00 ≤ first ∧ first < 0xD7A4 ∧ (first - 0xAC00) % 28 = 0
      ∧ 0x11A7 < second ∧ second < 0x11C3 then
    some (Char.ofNat (first + (second - 0x11A7)))
  else none

def join? (letter mark : Char) : Option Char :=
  (joinSyllable? letter.toNat mark.toNat).or
    (joinedRows.findSome? fun row =>
      if row.1 = mark.toNat then
        ((joinedPairs row).find? (·.1 == letter)).map (·.2)
      else none)

def split? (c : Char) : Option (Char × Char) :=
  let n := c.toNat
  if n < 0xC0 then none
  else if 0xAC00 ≤ n ∧ n < 0xD7A4 then
    let place := n - 0xAC00
    if place % 28 = 0 then
      some (Char.ofNat (0x1100 + place / 588), Char.ofNat (0x1161 + place % 588 / 28))
    else some (Char.ofNat (n - place % 28), Char.ofNat (0x11A7 + place % 28))
  else
    joinedRows.findSome? fun row =>
      ((joinedPairs row).find? (·.2 == c)).map fun pair => (pair.1, Char.ofNat row.1)

/-- The letter and the marks that a character stands for. The bound is on the number of marks; no
character has more than three. -/
def takeApart : Nat → Char → List Char
  | 0, c => [c]
  | bound + 1, c =>
    match split? c with
    | some (letter, mark) => takeApart bound letter ++ [mark]
    | none => [c]

/-- Puts a character behind others, nearest first. A mark goes before marks of greater class. -/
def settleMark (c : Char) : List Char → List Char
  | [] => [c]
  | nearest :: before =>
    if combiningClass c ≠ 0 ∧ combiningClass c < combiningClass nearest then
      nearest :: settleMark c before
    else c :: nearest :: before

/-- Letters and marks, with the marks in the order of their classes. -/
def apart (cs : List Char) : List Char :=
  ((cs.flatMap (takeApart 3)).foldl (fun done c => settleMark c done) []).reverse

/-- A text that is being joined: what is done, the letter that marks are joined to, and the marks
that stayed apart from it, each nearest first. -/
structure Composing where
  done : List Char
  letter : Option Char
  marks : List Char

namespace Composing

def reversed (composing : Composing) : List Char :=
  composing.marks ++ composing.letter.toList ++ composing.done

/-- Whether a character is next to the letter but for marks of lesser class. -/
def reaches (composing : Composing) (c : Char) : Bool :=
  match composing.marks with
  | [] => true
  | mark :: _ => combiningClass mark < combiningClass c

/-- Joins a character to the letter, or puts it behind. -/
def add (composing : Composing) (c : Char) : Composing :=
  let joined := composing.letter.bind fun letter =>
    if composing.reaches c then join? letter c else none
  match joined with
  | some letter => { composing with letter := some letter }
  | none =>
    if combiningClass c = 0 then { done := composing.reversed, letter := some c, marks := [] }
    else { composing with marks := c :: composing.marks }

end Composing

def compose (cs : List Char) : List Char :=
  ((apart cs).foldl Composing.add { done := [], letter := none, marks := [] }).reversed.reverse

end PresenceGateway.Text
