/-!
# Upper and lower case

Case mappings as runs: a run sends every first, second or further code point of a range to the code
point at the same distance from its image. Upper casing is the full mapping, in which a character
may become several (`ß` becomes `SS`); lower casing is the simple one. `alternates` lists the lower
case characters that share an upper case with another, for comparison without regard to case
(Unicode 14).
-/

namespace SchemaGuard.Text

/-- The code points `first`, `first + step`, … up to `last`, sent to `image`, `image + step`, …. -/
structure CaseRun where
  first : Nat
  last : Nat
  step : Nat
  image : Nat

/-- Where the run sends a code point, if it holds it. -/
def CaseRun.send? (run : CaseRun) (code : Nat) : Option Nat :=
  if run.first ≤ code && code ≤ run.last && (code - run.first) % run.step == 0 then
    some (run.image + (code - run.first))
  else
    none

/-- The run the other way. -/
def CaseRun.inverse (run : CaseRun) : CaseRun :=
  ⟨run.image, run.image + (run.last - run.first), run.step, run.first⟩

/-- The runs of single characters, given as pairs of a character and its image. -/
def CaseRun.ofPairs : List Char → List CaseRun
  | c :: image :: pairs => ⟨c.toNat, c.toNat, 1, image.toNat⟩ :: ofPairs pairs
  | _ => []

/-- Single characters, each before its upper case, whose lower case it is. -/
def casePairs : List String := [
  "ÿŸƀɃƈƇƌƋƒƑƕǶƙƘƚȽƞȠƨƧƭƬưƯƹƸƽƼƿǷǆǄǉǇǌǊǝƎǳǱǵǴȼȻɂɁɐⱯɑⱭɒⱰɓƁɔƆəƏɛƐɜꞫɠƓɡꞬɣƔɥꞍɦꞪɨƗɩƖɪꞮɫⱢ",
  "ɬꞭɯƜɱⱮɲƝɵƟɽⱤʀƦʂꟅʃƩʇꞱʈƮʉɄʌɅʒƷʝꞲʞꞰͷͶάΆόΌϗϏϲϹϳͿϸϷϻϺӏӀᵹꝽᵽⱣᶎꟆῥῬⅎℲↄↃⱡⱠⱥȺⱦȾⱳⱲⱶⱵⳳⳲⴧჇⴭჍꞌꞋ", "ꞔꟄꟑꟐꟶꟵꭓꞳ𐖼𐖕"]

/-- The lower case characters and their upper case, where each is one character and the other's. -/
def caseRuns : List CaseRun := CaseRun.ofPairs (casePairs.flatMap String.toList) ++ [
  ⟨0x61, 0x7a, 1, 0x41⟩, ⟨0xe0, 0xf6, 1, 0xc0⟩, ⟨0xf8, 0xfe, 1, 0xd8⟩, ⟨0x101, 0x12f, 2, 0x100⟩,
  ⟨0x133, 0x137, 2, 0x132⟩, ⟨0x13a, 0x148, 2, 0x139⟩, ⟨0x14b, 0x177, 2, 0x14a⟩,
  ⟨0x17a, 0x17e, 2, 0x179⟩, ⟨0x183, 0x185, 2, 0x182⟩, ⟨0x1a1, 0x1a5, 2, 0x1a0⟩,
  ⟨0x1b4, 0x1b6, 2, 0x1b3⟩, ⟨0x1ce, 0x1dc, 2, 0x1cd⟩, ⟨0x1df, 0x1ef, 2, 0x1de⟩,
  ⟨0x1f9, 0x21f, 2, 0x1f8⟩, ⟨0x223, 0x233, 2, 0x222⟩, ⟨0x23f, 0x240, 1, 0x2c7e⟩,
  ⟨0x247, 0x24f, 2, 0x246⟩, ⟨0x256, 0x257, 1, 0x189⟩, ⟨0x28a, 0x28b, 1, 0x1b1⟩,
  ⟨0x371, 0x373, 2, 0x370⟩, ⟨0x37b, 0x37d, 1, 0x3fd⟩, ⟨0x3ad, 0x3af, 1, 0x388⟩,
  ⟨0x3b1, 0x3c1, 1, 0x391⟩, ⟨0x3c3, 0x3cb, 1, 0x3a3⟩, ⟨0x3cd, 0x3ce, 1, 0x38e⟩,
  ⟨0x3d9, 0x3ef, 2, 0x3d8⟩, ⟨0x430, 0x44f, 1, 0x410⟩, ⟨0x450, 0x45f, 1, 0x400⟩,
  ⟨0x461, 0x481, 2, 0x460⟩, ⟨0x48b, 0x4bf, 2, 0x48a⟩, ⟨0x4c2, 0x4ce, 2, 0x4c1⟩,
  ⟨0x4d1, 0x52f, 2, 0x4d0⟩, ⟨0x561, 0x586, 1, 0x531⟩, ⟨0x10d0, 0x10fa, 1, 0x1c90⟩,
  ⟨0x10fd, 0x10ff, 1, 0x1cbd⟩, ⟨0x13f8, 0x13fd, 1, 0x13f0⟩, ⟨0x1e01, 0x1e95, 2, 0x1e00⟩,
  ⟨0x1ea1, 0x1eff, 2, 0x1ea0⟩, ⟨0x1f00, 0x1f07, 1, 0x1f08⟩, ⟨0x1f10, 0x1f15, 1, 0x1f18⟩,
  ⟨0x1f20, 0x1f27, 1, 0x1f28⟩, ⟨0x1f30, 0x1f37, 1, 0x1f38⟩, ⟨0x1f40, 0x1f45, 1, 0x1f48⟩,
  ⟨0x1f51, 0x1f57, 2, 0x1f59⟩, ⟨0x1f60, 0x1f67, 1, 0x1f68⟩, ⟨0x1f70, 0x1f71, 1, 0x1fba⟩,
  ⟨0x1f72, 0x1f75, 1, 0x1fc8⟩, ⟨0x1f76, 0x1f77, 1, 0x1fda⟩, ⟨0x1f78, 0x1f79, 1, 0x1ff8⟩,
  ⟨0x1f7a, 0x1f7b, 1, 0x1fea⟩, ⟨0x1f7c, 0x1f7d, 1, 0x1ffa⟩, ⟨0x1fb0, 0x1fb1, 1, 0x1fb8⟩,
  ⟨0x1fd0, 0x1fd1, 1, 0x1fd8⟩, ⟨0x1fe0, 0x1fe1, 1, 0x1fe8⟩, ⟨0x2170, 0x217f, 1, 0x2160⟩,
  ⟨0x24d0, 0x24e9, 1, 0x24b6⟩, ⟨0x2c30, 0x2c5f, 1, 0x2c00⟩, ⟨0x2c68, 0x2c6c, 2, 0x2c67⟩,
  ⟨0x2c81, 0x2ce3, 2, 0x2c80⟩, ⟨0x2cec, 0x2cee, 2, 0x2ceb⟩, ⟨0x2d00, 0x2d25, 1, 0x10a0⟩,
  ⟨0xa641, 0xa66d, 2, 0xa640⟩, ⟨0xa681, 0xa69b, 2, 0xa680⟩, ⟨0xa723, 0xa72f, 2, 0xa722⟩,
  ⟨0xa733, 0xa76f, 2, 0xa732⟩, ⟨0xa77a, 0xa77c, 2, 0xa779⟩, ⟨0xa77f, 0xa787, 2, 0xa77e⟩,
  ⟨0xa791, 0xa793, 2, 0xa790⟩, ⟨0xa797, 0xa7a9, 2, 0xa796⟩, ⟨0xa7b5, 0xa7c3, 2, 0xa7b4⟩,
  ⟨0xa7c8, 0xa7ca, 2, 0xa7c7⟩, ⟨0xa7d7, 0xa7d9, 2, 0xa7d6⟩, ⟨0xab70, 0xabbf, 1, 0x13a0⟩,
  ⟨0xff41, 0xff5a, 1, 0xff21⟩, ⟨0x10428, 0x1044f, 1, 0x10400⟩, ⟨0x104d8, 0x104fb, 1, 0x104b0⟩,
  ⟨0x10597, 0x105bb, 2, 0x10570⟩, ⟨0x10598, 0x105a0, 2, 0x10571⟩, ⟨0x105a4, 0x105b0, 2, 0x1057d⟩,
  ⟨0x105b4, 0x105b8, 2, 0x1058d⟩, ⟨0x10cc0, 0x10cf2, 1, 0x10c80⟩, ⟨0x118c0, 0x118df, 1, 0x118a0⟩,
  ⟨0x16e60, 0x16e7f, 1, 0x16e40⟩, ⟨0x1e922, 0x1e943, 1, 0x1e900⟩]

/-- Single characters, each before its upper case, which has another lower case. -/
def upperPairs : String :=
  "µΜıIſSǅǄǈǇǋǊǲǱ\u0345ΙςΣϐΒϑΘϕΦϖΠϰΚϱΡϵΕᲀВᲁДᲂОᲅТᲆЪᲇѢᲈꙊẛṠ\u1fbeΙ"

/-- The characters whose upper case is one other character. -/
def upperRuns : List CaseRun := caseRuns ++ CaseRun.ofPairs upperPairs.toList ++ [
  ⟨0x1c83, 0x1c84, 1, 0x421⟩]

/-- The characters whose upper case is several characters, each before these. -/
def upperExpansions : List String := [
  "ßSS", "ŉʼN", "ǰJ\u030c", "ΐΙ\u0308\u0301", "ΰΥ\u0308\u0301", "ևԵՒ", "ẖH\u0331", "ẗT\u0308",
  "ẘW\u030a", "ẙY\u030a", "ẚAʾ", "ὐΥ\u0313", "ὒΥ\u0313\u0300", "ὔΥ\u0313\u0301", "ὖΥ\u0313\u0342",
  "ᾀἈΙ", "ᾁἉΙ", "ᾂἊΙ", "ᾃἋΙ", "ᾄἌΙ", "ᾅἍΙ", "ᾆἎΙ", "ᾇἏΙ", "ᾈἈΙ", "ᾉἉΙ", "ᾊἊΙ", "ᾋἋΙ", "ᾌἌΙ", "ᾍἍΙ",
  "ᾎἎΙ", "ᾏἏΙ", "ᾐἨΙ", "ᾑἩΙ", "ᾒἪΙ", "ᾓἫΙ", "ᾔἬΙ", "ᾕἭΙ", "ᾖἮΙ", "ᾗἯΙ", "ᾘἨΙ", "ᾙἩΙ", "ᾚἪΙ", "ᾛἫΙ",
  "ᾜἬΙ", "ᾝἭΙ", "ᾞἮΙ", "ᾟἯΙ", "ᾠὨΙ", "ᾡὩΙ", "ᾢὪΙ", "ᾣὫΙ", "ᾤὬΙ", "ᾥὭΙ", "ᾦὮΙ", "ᾧὯΙ", "ᾨὨΙ", "ᾩὩΙ",
  "ᾪὪΙ", "ᾫὫΙ", "ᾬὬΙ", "ᾭὭΙ", "ᾮὮΙ", "ᾯὯΙ", "ᾲᾺΙ", "ᾳΑΙ", "ᾴΆΙ", "ᾶΑ\u0342", "ᾷΑ\u0342Ι", "ᾼΑΙ",
  "ῂῊΙ", "ῃΗΙ", "ῄΉΙ", "ῆΗ\u0342", "ῇΗ\u0342Ι", "ῌΗΙ", "ῒΙ\u0308\u0300", "\u1fd3Ι\u0308\u0301",
  "ῖΙ\u0342", "ῗΙ\u0308\u0342", "ῢΥ\u0308\u0300", "\u1fe3Υ\u0308\u0301", "ῤΡ\u0313", "ῦΥ\u0342",
  "ῧΥ\u0308\u0342", "ῲῺΙ", "ῳΩΙ", "ῴΏΙ", "ῶΩ\u0342", "ῷΩ\u0342Ι", "ῼΩΙ", "ﬀFF", "ﬁFI", "ﬂFL",
  "ﬃFFI", "ﬄFFL", "ﬅST", "ﬆST", "ﬓՄՆ", "ﬔՄԵ", "ﬕՄԻ", "ﬖՎՆ", "ﬗՄԽ"]

/-- Single characters, each before its lower case, which has another upper case. -/
def lowerPairs : String :=
  "İiǅǆǈǉǋǌǲǳϴθẞßᾼᾳῌῃῼῳ\u2126ω\u212ak\u212bå"

/-- The characters whose lower case is another character. -/
def lowerRuns : List CaseRun := caseRuns.map .inverse ++ CaseRun.ofPairs lowerPairs.toList ++ [
  ⟨0x1f88, 0x1f8f, 1, 0x1f80⟩, ⟨0x1f98, 0x1f9f, 1, 0x1f90⟩, ⟨0x1fa8, 0x1faf, 1, 0x1fa0⟩]

/-- Lower case characters with the same upper case. -/
def alternates : List String := [
  "iı", "sſ", "µμ", "\u0345ι\u1fbe", "ΐ\u1fd3", "ΰ\u1fe3", "βϐ", "εϵ", "θϑ", "κϰ", "πϖ", "ρϱ", "ςσ",
  "φϕ", "вᲀ", "дᲁ", "оᲂ", "сᲃ", "тᲄᲅ", "ъᲆ", "ѣᲇ", "ᲈꙋ", "ṡẛ", "ﬅﬆ"]

/-- The full upper case of a character. -/
def upper (c : Char) : List Char :=
  if c.toNat < 0x80 then
    [c.toUpper]
  else
    match upperExpansions.find? (·.toList.head? == some c) with
    | some expansion => expansion.toList.drop 1
    | none => [Char.ofNat ((upperRuns.findSome? (·.send? c.toNat)).getD c.toNat)]

/-- The simple lower case of a code point. -/
def lowerCode (code : Nat) : Nat :=
  if code < 0x80 then
    if 0x41 ≤ code && code ≤ 0x5a then code + 0x20 else code
  else
    (lowerRuns.findSome? (·.send? code)).getD code

/-- The other lower case characters with the same upper case as one. -/
def alternatesOf (code : Nat) : List Nat :=
  let found := alternates.find? (·.toList.any (·.toNat == code))
  ((found.map String.toList).getD []).filterMap fun c => if c.toNat = code then none else some c.toNat

/-- A text with its first character in upper case. -/
def capitalize (text : String) : String :=
  match text.toList with
  | [] => ""
  | c :: rest => String.ofList (upper c ++ rest)

end SchemaGuard.Text
