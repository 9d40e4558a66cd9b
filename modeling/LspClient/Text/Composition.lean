import LspClient.Text.CombiningClass

/-!
# Composed text

A letter with marks can be written as one character or as several. In composed text the
marks after a letter stand in the order of their classes, and whatever can be one
character is one. `composed` brings text into this form: it takes every character apart,
orders the marks, and puts together what combines.

The table has the combinations that a composed text uses. Hangul syllables follow a rule
instead. Characters that are only another way to write a single character are not in the
table; they stay as they are.
-/

namespace LspClient.Text

/-! ## Pairs -/

/-- The combinations: the second character, the first characters that combine with it, and
what these become. -/
def compositions : List (Nat × String × String) := [
  (0x300, "AEIOUaeiouÜüNnЕИеиĒēŌōWwÂâĂăÊêÔôƠơƯư",
    "ÀÈÌÒÙàèìòùǛǜǸǹЀЍѐѝḔḕṐṑẀẁẦầẰằỀềỒồỜờỪừ"),
  (0x300, "YyἀἁἈἉἐἑἘἙἠἡἨἩἰἱἸἹὀὁὈὉὐὑὙὠὡὨὩαεηιουω",
    "ỲỳἂἃἊἋἒἓἚἛἢἣἪἫἲἳἺἻὂὃὊὋὒὓὛὢὣὪὫὰὲὴὶὸὺὼ"),
  (0x300, "ΑΕΗ᾿ϊΙ῾ϋΥ¨ΟΩ", "ᾺῈῊ῍ῒῚ῝ῢῪ῭ῸῺ"),
  (0x301, "AEIOUYaeiouyCcLlNnRrSsZzÜüGgÅåÆæØø¨Α",
    "ÁÉÍÓÚÝáéíóúýĆćĹĺŃńŔŕŚśŹźǗǘǴǵǺǻǼǽǾǿ΅Ά"),
  (0x301, "ΕΗΙΟΥΩϊαεηιϋουωϒГКгкÇçĒēÏïKkMmÕõŌōPp",
    "ΈΉΊΌΎΏΐάέήίΰόύώϓЃЌѓќḈḉḖḗḮḯḰḱḾḿṌṍṒṓṔṕ"),
  (0x301, "ŨũWwÂâĂăÊêÔôƠơƯưἀἁἈἉἐἑἘἙἠἡἨἩἰἱἸἹὀὁὈὉ",
    "ṸṹẂẃẤấẮắẾếỐốỚớỨứἄἅἌἍἔἕἜἝἤἥἬἭἴἵἼἽὄὅὌὍ"),
  (0x301, "ὐὑὙὠὡὨὩ᾿῾", "ὔὕὝὤὥὬὭ῎῞"),
  (0x302, "AEIOUaeiouCcGgHhJjSsWwYyZzẠạẸẹỌọ",
    "ÂÊÎÔÛâêîôûĈĉĜĝĤĥĴĵŜŝŴŵŶŷẐẑẬậỆệỘộ"),
  (0x303, "ANOanoIiUuVvÂâĂăEeÊêÔôƠơƯưYy",
    "ÃÑÕãñõĨĩŨũṼṽẪẫẴẵẼẽỄễỖỗỠỡỮữỸỹ"),
  (0x304, "AaEeIiOoUuÜüÄäȦȧÆæǪǫÖöÕõȮȯYyИиУуGgḶḷ",
    "ĀāĒēĪīŌōŪūǕǖǞǟǠǡǢǣǬǭȪȫȬȭȰȱȲȳӢӣӮӯḠḡḸḹ"),
  (0x304, "ṚṛαΑιΙυΥ", "ṜṝᾱᾹῑῙῡῩ"),
  (0x306, "AaEeGgIiOoUuУИиуЖжАаЕеȨȩẠạαΑιΙυΥ",
    "ĂăĔĕĞğĬĭŎŏŬŭЎЙйўӁӂӐӑӖӗḜḝẶặᾰᾸῐῘῠῨ"),
  (0x307, "CcEeGgIZzAaOoBbDdFfHhMmNnPpRrSsŚśŠšṢ",
    "ĊċĖėĠġİŻżȦȧȮȯḂḃḊḋḞḟḢḣṀṁṄṅṖṗṘṙṠṡṤṥṦṧṨ"),
  (0x307, "ṣTtWwXxYyſ𐗒𐗚", "ṩṪṫẆẇẊẋẎẏẛ𐗉𐗤"),
  (0x308, "AEIOUaeiouyYΙΥιυϒЕІеіАаӘәЖжЗзИиОоӨөЭ",
    "ÄËÏÖÜäëïöüÿŸΪΫϊϋϔЁЇёїӒӓӚӛӜӝӞӟӤӥӦӧӪӫӬ"),
  (0x308, "эУуЧчЫыHhÕõŪūWwXxt",
    "ӭӰӱӴӵӸӹḦḧṎṏṺṻẄẅẌẍẗ"),
  (0x309, "AaÂâĂăEeÊêIiOoÔôƠơUuƯưYy",
    "ẢảẨẩẲẳẺẻỂểỈỉỎỏỔổỞởỦủỬửỶỷ"),
  (0x30A, "AaUuwy", "ÅåŮůẘẙ"),
  (0x30B, "OoUuУу", "ŐőŰűӲӳ"),
  (0x30C, "CcDdEeLlNnRrSsTtZzAaIiOoUuÜüGgKkƷʒjH",
    "ČčĎďĚěĽľŇňŘřŠšŤťŽžǍǎǏǐǑǒǓǔǙǚǦǧǨǩǮǯǰȞ"),
  (0x30C, "h", "ȟ"),
  (0x30F, "AaEeIiOoRrUuѴѵ",
    "ȀȁȄȅȈȉȌȍȐȑȔȕѶѷ"),
  (0x311, "AaEeIiOoRrUu", "ȂȃȆȇȊȋȎȏȒȓȖȗ"),
  (0x313, "αΑεΕηΗιΙοΟυωΩρ",
    "ἀἈἐἘἠἨἰἸὀὈὐὠὨῤ"),
  (0x314, "αΑεΕηΗιΙοΟυΥωΩρΡ",
    "ἁἉἑἙἡἩἱἹὁὉὑὙὡὩῥῬ"),
  (0x31B, "OoUu", "ƠơƯư"),
  (0x323, "BbDdHhKkLlMmNnRrSsTtVvWwZzAaEeIiOoƠơ",
    "ḄḅḌḍḤḥḲḳḶḷṂṃṆṇṚṛṢṣṬṭṾṿẈẉẒẓẠạẸẹỊịỌọỢợ"),
  (0x323, "UuƯưYy", "ỤụỰựỴỵ"),
  (0x324, "Uu", "Ṳṳ"),
  (0x325, "Aa", "Ḁḁ"),
  (0x326, "SsTt", "ȘșȚț"),
  (0x327, "CcGgKkLlNnRrSsTtEeDdHh",
    "ÇçĢģĶķĻļŅņŖŗŞşŢţȨȩḐḑḨḩ"),
  (0x328, "AaEeIiUuOo", "ĄąĘęĮįŲųǪǫ"),
  (0x32D, "DdEeLlNnTtUu", "ḒḓḘḙḼḽṊṋṰṱṶṷ"),
  (0x32E, "Hh", "Ḫḫ"),
  (0x330, "EeIiUu", "ḚḛḬḭṴṵ"),
  (0x331, "BbDdKkLlNnRrTtZzh",
    "ḆḇḎḏḴḵḺḻṈṉṞṟṮṯẔẕẖ"),
  (0x338, "←→↔⇐⇔⇒∃∈∋∣∥∼≃≅≈=≡≍<>≤≥≲≳≶≷≺≻⊂⊃⊆⊇⊢⊨⊩⊫",
    "↚↛↮⇍⇎⇏∄∉∌∤∦≁≄≇≉≠≢≭≮≯≰≱≴≵≸≹⊀⊁⊄⊅⊈⊉⊬⊭⊮⊯"),
  (0x338, "≼≽⊑⊒⊲⊳⊴⊵", "⋠⋡⋢⋣⋪⋫⋬⋭"),
  (0x342, "ἀἁἈἉἠἡἨἩἰἱἸἹὐὑὙὠὡὨὩα¨η᾿ιϊ῾υϋω",
    "ἆἇἎἏἦἧἮἯἶἷἾἿὖὗὟὦὧὮὯᾶ῁ῆ῏ῖῗ῟ῦῧῶ"),
  (0x345, "ἀἁἂἃἄἅἆἇἈἉἊἋἌἍἎἏἠἡἢἣἤἥἦἧἨἩἪἫἬἭἮἯὠὡὢὣ",
    "ᾀᾁᾂᾃᾄᾅᾆᾇᾈᾉᾊᾋᾌᾍᾎᾏᾐᾑᾒᾓᾔᾕᾖᾗᾘᾙᾚᾛᾜᾝᾞᾟᾠᾡᾢᾣ"),
  (0x345, "ὤὥὦὧὨὩὪὫὬὭὮὯὰαάᾶΑὴηήῆΗὼωώῶΩ",
    "ᾤᾥᾦᾧᾨᾩᾪᾫᾬᾭᾮᾯᾲᾳᾴᾷᾼῂῃῄῇῌῲῳῴῷῼ"),
  (0x653, "ا", "آ"),
  (0x654, "اويەہے", "أؤئۀۂۓ"),
  (0x655, "ا", "إ"),
  (0x93C, "नरळ", "ऩऱऴ"),
  (0x9BE, "ে", "ো"),
  (0x9D7, "ে", "ৌ"),
  (0xB3E, "େ", "ୋ"),
  (0xB56, "େ", "ୈ"),
  (0xB57, "େ", "ୌ"),
  (0xBBE, "ெே", "ொோ"),
  (0xBD7, "ஒெ", "ஔௌ"),
  (0xC56, "ె", "ై"),
  (0xCC2, "ೆ", "ೊ"),
  (0xCD5, "ಿೆೊ", "ೀೇೋ"),
  (0xCD6, "ೆ", "ೈ"),
  (0xD3E, "െേ", "ൊോ"),
  (0xD57, "െ", "ൌ"),
  (0xDCA, "ෙො", "ේෝ"),
  (0xDCF, "ෙ", "ො"),
  (0xDDF, "ෙ", "ෞ"),
  (0x102E, "ဥ", "ဦ"),
  (0x1B35, "ᬅᬇᬉᬋᬍᬑᬺᬼᬾᬿᭂ", "ᬆᬈᬊᬌᬎᬒᬻᬽᭀᭁᭃ"),
  (0x3099, "かきくけこさしすせそたちつてとはひふへほうゝカキクケコサシスセソタチツテ",
    "がぎぐげござじずぜぞだぢづでどばびぶべぼゔゞガギグゲゴザジズゼゾダヂヅデ"),
  (0x3099, "トハヒフヘホウワヰヱヲヽ", "ドバビブベボヴヷヸヹヺヾ"),
  (0x309A, "はひふへほハヒフヘホ", "ぱぴぷぺぽパピプペポ"),
  (0x110BA, "𑂙𑂛𑂥", "𑂚𑂜𑂫"),
  (0x11127, "𑄱𑄲", "𑄮𑄯"),
  (0x1133E, "𑍇", "𑍋"),
  (0x11357, "𑍇", "𑍌"),
  (0x113B8, "𑏂", "𑏇"),
  (0x113BB, "𑎄", "𑎅"),
  (0x113C2, "𑎎", "𑎎𑏅"),
  (0x113C9, "𑎂𑎐𑏂", "𑎃𑎑𑏈"),
  (0x114B0, "𑒹", "𑒼"),
  (0x114BA, "𑒹", "𑒻"),
  (0x114BD, "𑒹", "𑒾"),
  (0x115AF, "𑖸𑖹", "𑖺𑖻"),
  (0x11930, "𑤵", "𑤸"),
  (0x1611E, "𖄞", "𖄡"),
  (0x1611F, "𖄢𖄡𖄢", "𖄣𖄤𖄦𖄧"),
  (0x16120, "𖄡𖄞", "𖄥𖄨"),
  (0x16129, "𖄞", "𖄢"),
  (0x16D67, "𖵧𖵣𖵩", "𖵨𖵩𖵪")]

/-- The first leading consonant, vowel, and syllable of Hangul, and the number before that
of the first final consonant. -/
def hangulLead : Nat := 0x1100
def hangulVowel : Nat := 0x1161
def hangulSyllable : Nat := 0xAC00
def hangulFinal : Nat := 0x11A7

/-- How many leading consonants, vowels, and final consonants there are; no final counts
as one. -/
def hangulLeads : Nat := 19
def hangulVowels : Nat := 21
def hangulFinals : Nat := 28

/-- The offset of a character in a range of `count` characters from `first` on. -/
def offsetIn? (first count : Nat) (c : Char) : Option Nat :=
  if first ≤ c.toNat ∧ c.toNat < first + count then some (c.toNat - first) else none

/-- The Hangul syllable of two characters: a consonant and a vowel, or a syllable without
final consonant and one. -/
def combineHangul? (first second : Char) : Option Char :=
  match offsetIn? hangulLead hangulLeads first, offsetIn? hangulVowel hangulVowels second with
  | some lead, some vowel =>
    some (Char.ofNat (hangulSyllable + (lead * hangulVowels + vowel) * hangulFinals))
  | _, _ =>
    match offsetIn? hangulSyllable (hangulLeads * hangulVowels * hangulFinals) first,
        offsetIn? (hangulFinal + 1) (hangulFinals - 1) second with
    | some open_, some _ =>
      if open_ % hangulFinals = 0 then
        some (Char.ofNat (first.toNat + (second.toNat - hangulFinal)))
      else none
    | _, _ => none

/-- The two characters of a Hangul syllable. -/
def splitHangul? (c : Char) : Option (Char × Char) :=
  (offsetIn? hangulSyllable (hangulLeads * hangulVowels * hangulFinals) c).map fun offset =>
    if offset % hangulFinals = 0 then
      let pair := offset / hangulFinals
      (Char.ofNat (hangulLead + pair / hangulVowels), Char.ofNat (hangulVowel + pair % hangulVowels))
    else
      (Char.ofNat (c.toNat - offset % hangulFinals), Char.ofNat (hangulFinal + offset % hangulFinals))

/-- The character that two characters become. -/
def combine? (first second : Char) : Option Char :=
  if second.toNat < 0x300 then none
  else
    match compositions.find? fun (mark, firsts, _) =>
        mark = second.toNat && firsts.toList.contains first with
    | some (_, firsts, results) => (firsts.toList.zip results.toList).lookup first
    | none => combineHangul? first second

/-- The two characters that become this one. -/
def split? (c : Char) : Option (Char × Char) :=
  if c.toNat < 0xC0 then none
  else
    match compositions.findSome? fun (mark, firsts, results) =>
        ((results.toList.zip firsts.toList).lookup c).map fun first => (first, Char.ofNat mark) with
    | some pair => some pair
    | none => splitHangul? c

/-! ## Texts -/

/-- The characters of `c` taken apart, in `fuel` steps at most. -/
def takenApart : Nat → Char → List Char
  | 0, c => [c]
  | fuel + 1, c =>
    match split? c with
    | some (first, second) => takenApart fuel first ++ [second]
    | none => [c]

/-- No character is put together from more than four. -/
def longestSplit : Nat := 4

/-- Puts a character in front of ordered text: behind marks of a lower class. -/
def placeMark (c : Char) : List Char → List Char
  | [] => [c]
  | d :: rest =>
    if combiningClass d ≠ 0 ∧ combiningClass d < combiningClass c then d :: placeMark c rest
    else c :: d :: rest

/-- Text taken apart, with its marks in order. -/
def decomposed (text : List Char) : List Char :=
  (text.flatMap (takenApart longestSplit)).foldr placeMark []

/-- Puts together what combines with `letter`. `between` are the marks after it that do
not, the last one first; a mark of their class or a lower one does not get past them. -/
def composeAfter (letter : Char) (between : List Char) : List Char → List Char
  | [] => letter :: between.reverse
  | c :: rest =>
    let isBlocked := between.head?.any fun last => combiningClass c ≤ combiningClass last
    match if isBlocked then none else combine? letter c with
    | some together => composeAfter together between rest
    | none =>
      if combiningClass c = 0 then letter :: (between.reverse ++ composeAfter c [] rest)
      else composeAfter letter (c :: between) rest

/-- Puts together what combines in ordered text. Marks before the first letter stay. -/
def recomposed : List Char → List Char
  | [] => []
  | c :: rest => if combiningClass c = 0 then composeAfter c [] rest else c :: recomposed rest

/-- The composed form of a text. -/
def composed (text : List Char) : List Char := recomposed (decomposed text)

end LspClient.Text
