import DirectoryClient.Text.MarkOrder

/-! The composed form of a text: a letter and its marks are one character wherever there is such a
character, and the marks left over stand in their order. It covers the characters of plain names. -/
namespace DirectoryClient.Text

/-- Which letters become which characters with a mark: letter and character take turns. -/
private def composites : List (Nat × String) :=
  [(0x300, "aàeèiìoòuùüǜnǹеѐиѝēḕōṑwẁâầăằêềôồơờưừyỳἀἂἁἃἐἒἑἓἠἢἡἣἰἲἱἳὀὂὁὃὐὒὑὓὠὢὡὣαὰεὲηὴιὶοὸυὺωὼϊῒϋῢ"),
    (0x301, "aáeéiíoóuúyýcćlĺnńrŕsśzźüǘgǵåǻæǽøǿϊΐαάεέηήιίϋΰοόυύωώгѓкќçḉēḗïḯkḱmḿõṍōṓpṕũṹwẃâấăắêếôốơớưứἀἄἁἅἐἔἑἕἠἤἡἥἰἴἱἵὀὄὁὅὐὔὑὕὠὤὡὥ"),
    (0x302, "aâeêiîoôuûcĉgĝhĥjĵsŝwŵyŷzẑạậẹệọộ"), (0x303, "aãnñoõiĩuũvṽâẫăẵeẽêễôỗơỡưữyỹ"),
    (0x304, "aāeēiīoōuūüǖäǟȧǡæǣǫǭöȫõȭȯȱyȳиӣуӯgḡḷḹṛṝαᾱιῑυῡ"),
    (0x306, "aăeĕgğiĭoŏuŭийуўжӂаӑеӗȩḝạặαᾰιῐυῠ"),
    (0x307, "cċeėgġzżaȧoȯbḃdḋfḟhḣmṁnṅpṗrṙsṡśṥšṧṣṩtṫwẇxẋyẏ𐗒𐗉𐗚𐗤"),
    (0x308, "aäeëiïoöuüyÿιϊυϋеёіїаӓәӛжӝзӟиӥоӧөӫэӭуӱчӵыӹhḧõṏūṻwẅxẍtẗ"),
    (0x309, "aảâẩăẳeẻêểiỉoỏôổơởuủưửyỷ"), (0x30a, "aåuůwẘyẙ"), (0x30b, "oőuűуӳ"),
    (0x30c, "cčdďeělľnňrřsštťzžaǎiǐoǒuǔüǚgǧkǩʒǯjǰhȟ"), (0x30f, "aȁeȅiȉoȍrȑuȕѵѷ"),
    (0x311, "aȃeȇiȋoȏrȓuȗ"), (0x313, "αἀεἐηἠιἰοὀυὐωὠρῤ"), (0x314, "αἁεἑηἡιἱοὁυὑωὡρῥ"),
    (0x31b, "oơuư"), (0x323, "bḅdḍhḥkḳlḷmṃnṇrṛsṣtṭvṿwẉzẓaạeẹiịoọơợuụưựyỵ"), (0x324, "uṳ"),
    (0x325, "aḁ"), (0x326, "sștț"), (0x327, "cçgģkķlļnņrŗsştţeȩdḑhḩ"), (0x328, "aąeęiįuųoǫ"),
    (0x32d, "dḓeḙlḽnṋtṱuṷ"), (0x32e, "hḫ"), (0x330, "eḛiḭuṵ"), (0x331, "bḇdḏkḵlḻnṉrṟtṯzẕhẖ"),
    (0x338, "←↚→↛↔↮⇐⇍⇔⇎⇒⇏∃∄∈∉∋∌∣∤∥∦∼≁≃≄≅≇≈≉=≠≡≢≍≭<≮>≯≤≰≥≱≲≴≳≵≶≸≷≹≺⊀≻⊁⊂⊄⊃⊅⊆⊈⊇⊉⊢⊬⊨⊭⊩⊮⊫⊯≼⋠≽⋡⊑⋢⊒⋣⊲⋪⊳⋫⊴⋬⊵⋭"),
    (0x342, "ἀἆἁἇἠἦἡἧἰἶἱἷὐὖὑὗὠὦὡὧαᾶηῆιῖϊῗυῦϋῧωῶ"), (0x653, "اآ"), (0x654, "اأوؤيئەۀہۂےۓ"),
    (0x655, "اإ"), (0x93c, "नऩरऱळऴ"), (0x9be, "েো"), (0x9d7, "েৌ"), (0xb3e, "େୋ"), (0xb56, "େୈ"),
    (0xb57, "େୌ"), (0xbbe, "ெொேோ"), (0xbd7, "ஒஔெௌ"), (0xc56, "ెై"), (0xcc2, "ೆೊ"),
    (0xcd5, "ಿೀೆೇೊೋ"), (0xcd6, "ೆೈ"), (0xd3e, "െൊേോ"), (0xd57, "െൌ"), (0xdca, "ෙේොෝ"),
    (0xdcf, "ෙො"), (0xddf, "ෙෞ"), (0x102e, "ဥဦ"), (0x1b35, "ᬅᬆᬇᬈᬉᬊᬋᬌᬍᬎᬑᬒᬺᬻᬼᬽᬾᭀᬿᭁᭂᭃ"),
    (0x3099, "かがきぎくぐけげこごさざしじすずせぜそぞただちぢつづてでとどはばひびふぶへべほぼうゔゝゞカガキギクグケゲコゴサザシジスズセゼソゾタダチヂツヅテデトドハバヒビフブヘベホボウヴワヷヰヸヱヹヲヺヽヾ"),
    (0x309a, "はぱひぴふぷへぺほぽハパヒピフプヘペホポ"), (0x110ba, "𑂙𑂚𑂛𑂜𑂥𑂫"), (0x11127, "𑄱𑄮𑄲𑄯"), (0x1133e, "𑍇𑍋"),
    (0x11357, "𑍇𑍌"), (0x113b8, "𑏅𑎸"), (0x113bb, "𑎄𑎅"), (0x113c2, "𑎋𑎎𑏅𑏂"), (0x113c9, "𑎂𑎃𑎐𑎑𑏅𑏉"),
    (0x114b0, "𑒹𑒼"), (0x114ba, "𑒹𑒻"), (0x114bd, "𑒹𑒾"), (0x115af, "𑖸𑖺𑖹𑖻"), (0x11930, "𑤵𑤸"),
    (0x1611e, "𖄡𖄞"), (0x1611f, "𖄦𖄩𖄤𖄡𖄦𖄢𖄧"), (0x16120, "𖄨𖄡𖄨"), (0x16129, "𖄡𖄩"), (0x16d67, "𖵨𖵧𖵣𖵩𖵩𖵪")]

private def turns : List Char → List (Char × Char)
  | a :: b :: rest => (a, b) :: turns rest
  | _ => []

namespace Hangul

private def middles : Nat := 21

private def finals : Nat := 28

private def number? (first size : Nat) (c : Char) : Option Nat :=
  if first ≤ c.toNat ∧ c.toNat < first + size then some (c.toNat - first) else none

private def syllable? (c : Char) : Option Nat := number? 0xac00 (19 * middles * finals) c

private def compose? (a b : Char) : Option Char :=
  match number? 0x1100 19 a, number? 0x1161 middles b, syllable? a, number? 0x11a8 (finals - 1) b with
  | some initial, some middle, _, _ =>
    some (Char.ofNat (0xac00 + (initial * middles + middle) * finals))
  | _, _, some n, some final =>
    if n % finals = 0 then some (Char.ofNat (a.toNat + final + 1)) else none
  | _, _, _, _ => none

private def decompose? (c : Char) : Option (Char × Char) :=
  (syllable? c).map fun n =>
    if n % finals = 0 then
      (Char.ofNat (0x1100 + n / finals / middles), Char.ofNat (0x1161 + n / finals % middles))
    else (Char.ofNat (c.toNat - n % finals), Char.ofNat (0x11a7 + n % finals))

end Hangul

private def composePair? (a b : Char) : Option Char :=
  match Hangul.compose? a b with
  | some c => some c
  | none => composites.lookup b.toNat >>= fun s => (turns s.toList).lookup a

private def decomposePair? (c : Char) : Option (Char × Char) :=
  match Hangul.decompose? c with
  | some pair => some pair
  | none => composites.findSome? fun (mark, s) =>
    (turns s.toList).findSome? fun (a, p) => if p = c then some (a, Char.ofNat mark) else none

private def decomposed : Nat → Char → List Char
  | 0, c => [c]
  | n + 1, c =>
    if c.toNat < 0x80 then [c]
    else match decomposePair? c with
      | some (a, b) => decomposed n a ++ [b]
      | none => [c]

/-- No character carries more than so many marks. -/
private def deepest : Nat := 4

private def insertMark (c : Char) : List Char → List Char
  | [] => [c]
  | d :: before =>
    if markOrder c ≠ 0 ∧ markOrder c < markOrder d then d :: insertMark c before
    else c :: d :: before

private def reordered (cs : List Char) : List Char :=
  (cs.foldl (fun before c => insertMark c before) []).reverse

/-- A text that is being composed, from its end backwards: what is finished, the last character that
can still be composed, and the marks that stay beside it. -/
structure Composing where
  finished : List Char := []
  last : Option Char := none
  marks : List Char := []

namespace Composing

private def characters (s : Composing) : List Char := s.marks ++ s.last.toList ++ s.finished

/-- Adds a character, to the last one if it goes with it and no mark of its place or a later one stands
between. -/
private def add (s : Composing) (c : Char) : Composing :=
  let isNext := s.marks.head?.all (markOrder · < markOrder c)
  match s.last.bind fun last => if isNext then composePair? last c else none with
  | some composed => { s with last := some composed }
  | none =>
    if markOrder c = 0 then { finished := s.characters, last := some c }
    else { s with marks := c :: s.marks }

end Composing

def composed (cs : List Char) : List Char :=
  let parts := reordered (cs.flatMap (decomposed deepest))
  (parts.foldl Composing.add {}).characters.reverse

end DirectoryClient.Text
