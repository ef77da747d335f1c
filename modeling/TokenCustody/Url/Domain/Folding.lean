/-
TokenCustody.Url.Domain.Folding — one spelling for many.

A domain name can be written in capital letters, in wide or raised or
circled letters, with one sign for several letters, and with characters
that only change how their neighbours look. `fold` gives what such a
character stands for.

Characters are folded after they were taken apart, so letters with marks
need no entries of their own.
-/
import TokenCustody.Text.Edges
import TokenCustody.Text.Split

namespace TokenCustody.Url

open TokenCustody.Text

/-! ## Dropped characters -/

/-- The edges of the set of characters that stand for nothing. -/
def droppedEdges : List Nat := [
  0xAD, 0xAE, 0x34F, 0x350, 0x115F, 0x1161, 0x17B4, 0x17B6, 0x180B, 0x1810, 0x200B, 0x200C,
  0x2060, 0x2065, 0x206A, 0x2070, 0x3164, 0x3165, 0xFE00, 0xFE10, 0xFEFF, 0xFF00, 0xFFA0, 0xFFA1,
  0x1BCA0, 0x1BCA4, 0x1D173, 0x1D17B, 0xE0100, 0xE01F0]

/-- Whether a character only changes how its neighbours look. -/
def isDropped (c : Char) : Bool := isWithin droppedEdges c.toNat

/-! ## Stretches -/

/-- A stretch of characters that are folded alike: the first and the last one, how far
they are apart, and what to add. -/
structure FoldRun where
  first : Nat
  last : Nat
  step : Nat
  shift : Int

/-- All stretches. -/
def foldRuns : List FoldRun := [
  ⟨0x41, 0x5A, 1, 32⟩, ⟨0x246, 0x24E, 2, 1⟩, ⟨0x391, 0x3A1, 1, 32⟩, ⟨0x3A3, 0x3A9, 1, 32⟩,
  ⟨0x3D8, 0x3EE, 2, 1⟩, ⟨0x410, 0x418, 1, 32⟩, ⟨0x41A, 0x42F, 1, 32⟩, ⟨0x460, 0x474, 2, 1⟩,
  ⟨0x478, 0x480, 2, 1⟩, ⟨0x48A, 0x4BE, 2, 1⟩, ⟨0x4C3, 0x4CD, 2, 1⟩, ⟨0x4FA, 0x52E, 2, 1⟩,
  ⟨0x531, 0x556, 1, 48⟩, ⟨0x10A0, 0x10C5, 1, 7264⟩, ⟨0x13F8, 0x13FD, 1, -8⟩,
  ⟨0x1C90, 0x1CBA, 1, -3008⟩, ⟨0x1D33, 0x1D3A, 1, -7372⟩, ⟨0x2074, 0x2079, 1, -8256⟩,
  ⟨0x2080, 0x2089, 1, -8272⟩, ⟨0x2460, 0x2468, 1, -9263⟩, ⟨0x24B6, 0x24CF, 1, -9301⟩,
  ⟨0x24D0, 0x24E9, 1, -9327⟩, ⟨0x2C00, 0x2C2F, 1, 48⟩, ⟨0x2C80, 0x2CE2, 2, 1⟩,
  ⟨0x313A, 0x313F, 1, -8074⟩, ⟨0x3145, 0x314E, 1, -8252⟩, ⟨0x314F, 0x3163, 1, -8174⟩,
  ⟨0x3178, 0x317C, 1, -8269⟩, ⟨0x3269, 0x326D, 1, -8539⟩, ⟨0x32E4, 0x32E9, 1, -538⟩,
  ⟨0x32EE, 0x32F2, 1, -528⟩, ⟨0x32F5, 0x32FA, 1, -525⟩, ⟨0xA640, 0xA66C, 2, 1⟩,
  ⟨0xA680, 0xA69A, 2, 1⟩, ⟨0xA722, 0xA72E, 2, 1⟩, ⟨0xA732, 0xA76E, 2, 1⟩, ⟨0xA77E, 0xA786, 2, 1⟩,
  ⟨0xA796, 0xA7A8, 2, 1⟩, ⟨0xA7B4, 0xA7C2, 2, 1⟩, ⟨0xA7CC, 0xA7DA, 2, 1⟩,
  ⟨0xAB70, 0xABBF, 1, -38864⟩, ⟨0xFF07, 0xFF0E, 1, -65248⟩, ⟨0xFF10, 0xFF19, 1, -65248⟩,
  ⟨0xFF21, 0xFF3A, 1, -65216⟩, ⟨0xFF3F, 0xFF5B, 1, -65248⟩, ⟨0xFF85, 0xFF8A, 1, -52923⟩,
  ⟨0xFF8F, 0xFF93, 1, -52913⟩, ⟨0xFF96, 0xFF9B, 1, -52910⟩, ⟨0xFFAA, 0xFFAF, 1, -60922⟩,
  ⟨0xFFB5, 0xFFBE, 1, -61100⟩, ⟨0xFFC2, 0xFFC7, 1, -61025⟩, ⟨0xFFCA, 0xFFCF, 1, -61027⟩,
  ⟨0xFFD2, 0xFFD7, 1, -61029⟩, ⟨0x10400, 0x10427, 1, 40⟩, ⟨0x104B0, 0x104D3, 1, 40⟩,
  ⟨0x10570, 0x1057A, 1, 39⟩, ⟨0x1057C, 0x1058A, 1, 39⟩, ⟨0x1058C, 0x10592, 1, 39⟩,
  ⟨0x10C80, 0x10CB2, 1, 64⟩, ⟨0x10D50, 0x10D65, 1, 32⟩, ⟨0x118A0, 0x118BF, 1, 32⟩,
  ⟨0x16E40, 0x16E5F, 1, 32⟩, ⟨0x16EA0, 0x16EB8, 1, 27⟩, ⟨0x1CCD6, 0x1CCEF, 1, -117877⟩,
  ⟨0x1CCF0, 0x1CCF9, 1, -117952⟩, ⟨0x1D400, 0x1D419, 1, -119711⟩, ⟨0x1D41A, 0x1D433, 1, -119737⟩,
  ⟨0x1D434, 0x1D44D, 1, -119763⟩, ⟨0x1D44E, 0x1D454, 1, -119789⟩, ⟨0x1D456, 0x1D467, 1, -119789⟩,
  ⟨0x1D468, 0x1D481, 1, -119815⟩, ⟨0x1D482, 0x1D49B, 1, -119841⟩, ⟨0x1D4AE, 0x1D4B5, 1, -119867⟩,
  ⟨0x1D4BE, 0x1D4C3, 1, -119893⟩, ⟨0x1D4C5, 0x1D4CF, 1, -119893⟩, ⟨0x1D4D0, 0x1D4E9, 1, -119919⟩,
  ⟨0x1D4EA, 0x1D503, 1, -119945⟩, ⟨0x1D50D, 0x1D514, 1, -119971⟩, ⟨0x1D516, 0x1D51C, 1, -119971⟩,
  ⟨0x1D51E, 0x1D537, 1, -119997⟩, ⟨0x1D540, 0x1D544, 1, -120023⟩, ⟨0x1D54A, 0x1D550, 1, -120023⟩,
  ⟨0x1D552, 0x1D56B, 1, -120049⟩, ⟨0x1D56C, 0x1D585, 1, -120075⟩, ⟨0x1D586, 0x1D59F, 1, -120101⟩,
  ⟨0x1D5A0, 0x1D5B9, 1, -120127⟩, ⟨0x1D5BA, 0x1D5D3, 1, -120153⟩, ⟨0x1D5D4, 0x1D5ED, 1, -120179⟩,
  ⟨0x1D5EE, 0x1D607, 1, -120205⟩, ⟨0x1D608, 0x1D621, 1, -120231⟩, ⟨0x1D622, 0x1D63B, 1, -120257⟩,
  ⟨0x1D63C, 0x1D655, 1, -120283⟩, ⟨0x1D656, 0x1D66F, 1, -120309⟩, ⟨0x1D670, 0x1D689, 1, -120335⟩,
  ⟨0x1D68A, 0x1D6A3, 1, -120361⟩, ⟨0x1D6A8, 0x1D6B8, 1, -119543⟩, ⟨0x1D6BA, 0x1D6C0, 1, -119543⟩,
  ⟨0x1D6C2, 0x1D6D2, 1, -119569⟩, ⟨0x1D6D4, 0x1D6DA, 1, -119569⟩, ⟨0x1D6E2, 0x1D6F2, 1, -119601⟩,
  ⟨0x1D6F4, 0x1D6FA, 1, -119601⟩, ⟨0x1D6FC, 0x1D70C, 1, -119627⟩, ⟨0x1D70E, 0x1D714, 1, -119627⟩,
  ⟨0x1D71C, 0x1D72C, 1, -119659⟩, ⟨0x1D72E, 0x1D734, 1, -119659⟩, ⟨0x1D736, 0x1D746, 1, -119685⟩,
  ⟨0x1D748, 0x1D74E, 1, -119685⟩, ⟨0x1D756, 0x1D766, 1, -119717⟩, ⟨0x1D768, 0x1D76E, 1, -119717⟩,
  ⟨0x1D770, 0x1D780, 1, -119743⟩, ⟨0x1D782, 0x1D788, 1, -119743⟩, ⟨0x1D790, 0x1D7A0, 1, -119775⟩,
  ⟨0x1D7A2, 0x1D7A8, 1, -119775⟩, ⟨0x1D7AA, 0x1D7BA, 1, -119801⟩, ⟨0x1D7BC, 0x1D7C2, 1, -119801⟩,
  ⟨0x1D7CE, 0x1D7D7, 1, -120734⟩, ⟨0x1D7D8, 0x1D7E1, 1, -120744⟩, ⟨0x1D7E2, 0x1D7EB, 1, -120754⟩,
  ⟨0x1D7EC, 0x1D7F5, 1, -120764⟩, ⟨0x1D7F6, 0x1D7FF, 1, -120774⟩, ⟨0x1E030, 0x1E038, 1, -121856⟩,
  ⟨0x1E03C, 0x1E046, 1, -121854⟩, ⟨0x1E051, 0x1E059, 1, -121889⟩, ⟨0x1E05F, 0x1E064, 1, -121884⟩,
  ⟨0x1E900, 0x1E921, 1, 34⟩, ⟨0x1F130, 0x1F149, 1, -127183⟩, ⟨0x1FBF0, 0x1FBF9, 1, -129984⟩]

/-- Whether a stretch has a code point. -/
def FoldRun.covers (r : FoldRun) (n : Nat) : Bool :=
  r.first ≤ n && n ≤ r.last && (n - r.first) % r.step == 0

/-! ## Single characters -/

/-- Characters in a row and what they stand for. -/
structure Spelling where
  first : Nat
  last : Nat
  /-- One word for each character, with spaces between. -/
  words : String

/-- All characters that stand for something and are in no stretch. -/
def spellings : List Spelling := [
  ⟨0xAA, 0xAA, "a"⟩, ⟨0xB2, 0xB3, "2 3"⟩, ⟨0xB5, 0xB5, "μ"⟩, ⟨0xB9, 0xBA, "1 o"⟩,
  ⟨0xBC, 0xBE, "1⁄4 1⁄2 3⁄4"⟩, ⟨0xC6, 0xC6, "æ"⟩, ⟨0xD0, 0xD0, "ð"⟩, ⟨0xD8, 0xD8, "ø"⟩,
  ⟨0xDE, 0xDE, "þ"⟩, ⟨0x110, 0x110, "đ"⟩, ⟨0x126, 0x126, "ħ"⟩, ⟨0x132, 0x133, "ij ij"⟩,
  ⟨0x13F, 0x141, "l· l· ł"⟩, ⟨0x149, 0x14A, "ʼn ŋ"⟩, ⟨0x152, 0x152, "œ"⟩, ⟨0x166, 0x166, "ŧ"⟩,
  ⟨0x17F, 0x17F, "s"⟩, ⟨0x181, 0x182, "ɓ ƃ"⟩, ⟨0x184, 0x184, "ƅ"⟩, ⟨0x186, 0x187, "ɔ ƈ"⟩,
  ⟨0x189, 0x18B, "ɖ ɗ ƌ"⟩, ⟨0x18E, 0x191, "ǝ ə ɛ ƒ"⟩, ⟨0x193, 0x194, "ɠ ɣ"⟩,
  ⟨0x196, 0x198, "ɩ ɨ ƙ"⟩, ⟨0x19C, 0x19D, "ɯ ɲ"⟩, ⟨0x19F, 0x19F, "ɵ"⟩, ⟨0x1A2, 0x1A2, "ƣ"⟩,
  ⟨0x1A4, 0x1A4, "ƥ"⟩, ⟨0x1A6, 0x1A7, "ʀ ƨ"⟩, ⟨0x1A9, 0x1A9, "ʃ"⟩, ⟨0x1AC, 0x1AC, "ƭ"⟩,
  ⟨0x1AE, 0x1AE, "ʈ"⟩, ⟨0x1B1, 0x1B3, "ʊ ʋ ƴ"⟩, ⟨0x1B5, 0x1B5, "ƶ"⟩, ⟨0x1B7, 0x1B8, "ʒ ƹ"⟩,
  ⟨0x1BC, 0x1BC, "ƽ"⟩, ⟨0x1C4, 0x1CC, "dž dž dž lj lj lj nj nj nj"⟩, ⟨0x1E4, 0x1E4, "ǥ"⟩,
  ⟨0x1F1, 0x1F3, "dz dz dz"⟩, ⟨0x1F6, 0x1F7, "ƕ ƿ"⟩, ⟨0x21C, 0x21C, "ȝ"⟩, ⟨0x220, 0x220, "ƞ"⟩,
  ⟨0x222, 0x222, "ȣ"⟩, ⟨0x224, 0x224, "ȥ"⟩, ⟨0x23A, 0x23B, "ⱥ ȼ"⟩, ⟨0x23D, 0x23E, "ƚ ⱦ"⟩,
  ⟨0x241, 0x241, "ɂ"⟩, ⟨0x243, 0x245, "ƀ ʉ ʌ"⟩, ⟨0x2B0, 0x2B8, "h ɦ j r ɹ ɻ ʁ w y"⟩,
  ⟨0x2E0, 0x2E4, "ɣ l s x ʕ"⟩, ⟨0x345, 0x345, "ι"⟩, ⟨0x370, 0x370, "ͱ"⟩, ⟨0x372, 0x372, "ͳ"⟩,
  ⟨0x376, 0x376, "ͷ"⟩, ⟨0x37F, 0x37F, "ϳ"⟩, ⟨0x3CF, 0x3D2, "ϗ β θ υ"⟩, ⟨0x3D5, 0x3D6, "φ π"⟩,
  ⟨0x3F0, 0x3F2, "κ ρ σ"⟩, ⟨0x3F4, 0x3F5, "θ ε"⟩, ⟨0x3F7, 0x3F7, "ϸ"⟩, ⟨0x3F9, 0x3FA, "σ ϻ"⟩,
  ⟨0x3FD, 0x3FF, "ͻ ͼ ͽ"⟩, ⟨0x402, 0x402, "ђ"⟩, ⟨0x404, 0x406, "є ѕ і"⟩,
  ⟨0x408, 0x40B, "ј љ њ ћ"⟩, ⟨0x40F, 0x40F, "џ"⟩, ⟨0x4C0, 0x4C0, "ӏ"⟩, ⟨0x4D4, 0x4D4, "ӕ"⟩,
  ⟨0x4D8, 0x4D8, "ә"⟩, ⟨0x4E0, 0x4E0, "ӡ"⟩, ⟨0x4E8, 0x4E8, "ө"⟩, ⟨0x4F6, 0x4F6, "ӷ"⟩,
  ⟨0x587, 0x587, "եւ"⟩, ⟨0x675, 0x678, "اٴ وٴ ۇٴ يٴ"⟩, ⟨0xE33, 0xE33, "\u0e4dา"⟩,
  ⟨0xEB3, 0xEB3, "\u0ecdາ"⟩, ⟨0xEDC, 0xEDD, "ຫນ ຫມ"⟩, ⟨0xF0C, 0xF0C, "་"⟩,
  ⟨0xF77, 0xF77, "\u0fb2\u0f71\u0f80"⟩, ⟨0xF79, 0xF79, "\u0fb3\u0f71\u0f80"⟩,
  ⟨0x10C7, 0x10C7, "ⴧ"⟩, ⟨0x10CD, 0x10CD, "ⴭ"⟩, ⟨0x10FC, 0x10FC, "ნ"⟩,
  ⟨0x1C80, 0x1C89, "в д о с т т ъ ѣ ꙋ ᲊ"⟩, ⟨0x1CBD, 0x1CBF, "ჽ ჾ ჿ"⟩, ⟨0x1D2C, 0x1D2E, "a æ b"⟩,
  ⟨0x1D30, 0x1D32, "d e ǝ"⟩, ⟨0x1D3C, 0x1D4D, "o ȣ p r t u w a ɐ ɑ ᴂ b d e ə ɛ ɜ g"⟩,
  ⟨0x1D4F, 0x1D6A, "k m ŋ o ɔ ᴖ ᴗ p t u ᴝ ɯ v ᴥ β γ δ φ χ i r u v β γ ρ φ χ"⟩,
  ⟨0x1D78, 0x1D78, "н"⟩,
  ⟨0x1D9B, 0x1DBB, "ɒ c ɕ ð ɜ f ɟ ɡ ɥ ɨ ɩ ɪ ᵻ ʝ ɭ ᶅ ʟ ɱ ɰ ɲ ɳ ɴ ɵ ɸ ʂ ʃ ƫ ʉ ʊ ᴜ ʋ ʌ z"⟩,
  ⟨0x1DBC, 0x1DBF, "ʐ ʑ ʒ θ"⟩, ⟨0x1E9A, 0x1E9A, "aʾ"⟩, ⟨0x1E9E, 0x1E9E, "ß"⟩,
  ⟨0x1EFA, 0x1EFA, "ỻ"⟩, ⟨0x1EFC, 0x1EFC, "ỽ"⟩, ⟨0x1EFE, 0x1EFE, "ỿ"⟩, ⟨0x2011, 0x2011, "‐"⟩,
  ⟨0x2033, 0x2034, "′′ ′′′"⟩, ⟨0x2036, 0x2037, "‵‵ ‵‵‵"⟩, ⟨0x203C, 0x203C, "!!"⟩,
  ⟨0x2057, 0x2057, "′′′′"⟩, ⟨0x2070, 0x2071, "0 i"⟩, ⟨0x207A, 0x207F, "+ − = ( ) n"⟩,
  ⟨0x208A, 0x208E, "+ − = ( )"⟩, ⟨0x2090, 0x209C, "a e o x ə h k l m n p s t"⟩,
  ⟨0x20A8, 0x20A8, "rs"⟩, ⟨0x2102, 0x2103, "c °c"⟩, ⟨0x2107, 0x2107, "ɛ"⟩,
  ⟨0x2109, 0x2113, "°f g h h h h ħ i i l l"⟩, ⟨0x2115, 0x2116, "n no"⟩,
  ⟨0x2119, 0x211D, "p q r r r"⟩, ⟨0x2120, 0x2122, "sm tel tm"⟩, ⟨0x2124, 0x2124, "z"⟩,
  ⟨0x2128, 0x2128, "z"⟩, ⟨0x212C, 0x212D, "b c"⟩, ⟨0x212F, 0x2139, "e e f ⅎ m o א ב ג ד i"⟩,
  ⟨0x213B, 0x2140, "fax π γ γ π ∑"⟩, ⟨0x2145, 0x2149, "d d e i j"⟩,
  ⟨0x2150, 0x2160, "1⁄7 1⁄9 1⁄10 1⁄3 2⁄3 1⁄5 2⁄5 3⁄5 4⁄5 1⁄6 5⁄6 1⁄8 3⁄8 5⁄8 7⁄8 1⁄ i"⟩,
  ⟨0x2161, 0x2176, "ii iii iv v vi vii viii ix x xi xii l c d m i ii iii iv v vi vii"⟩,
  ⟨0x2177, 0x217F, "viii ix x xi xii l c d m"⟩, ⟨0x2183, 0x2183, "ↄ"⟩, ⟨0x2189, 0x2189, "0⁄3"⟩,
  ⟨0x222C, 0x222D, "∫∫ ∫∫∫"⟩, ⟨0x222F, 0x2230, "∮∮ ∮∮∮"⟩,
  ⟨0x2469, 0x247B, "10 11 12 13 14 15 16 17 18 19 20 (1) (2) (3) (4) (5) (6) (7) (8)"⟩,
  ⟨0x247C, 0x2487, "(9) (10) (11) (12) (13) (14) (15) (16) (17) (18) (19) (20)"⟩,
  ⟨0x249C, 0x24AB, "(a) (b) (c) (d) (e) (f) (g) (h) (i) (j) (k) (l) (m) (n) (o) (p)"⟩,
  ⟨0x24AC, 0x24B5, "(q) (r) (s) (t) (u) (v) (w) (x) (y) (z)"⟩, ⟨0x24EA, 0x24EA, "0"⟩,
  ⟨0x2A0C, 0x2A0C, "∫∫∫∫"⟩, ⟨0x2A75, 0x2A76, "== ==="⟩, ⟨0x2C60, 0x2C60, "ⱡ"⟩,
  ⟨0x2C62, 0x2C64, "ɫ ᵽ ɽ"⟩, ⟨0x2C67, 0x2C67, "ⱨ"⟩, ⟨0x2C69, 0x2C69, "ⱪ"⟩, ⟨0x2C6B, 0x2C6B, "ⱬ"⟩,
  ⟨0x2C6D, 0x2C70, "ɑ ɱ ɐ ɒ"⟩, ⟨0x2C72, 0x2C72, "ⱳ"⟩, ⟨0x2C75, 0x2C75, "ⱶ"⟩,
  ⟨0x2C7C, 0x2C7F, "j v ȿ ɀ"⟩, ⟨0x2CEB, 0x2CEB, "ⳬ"⟩, ⟨0x2CED, 0x2CED, "ⳮ"⟩,
  ⟨0x2CF2, 0x2CF2, "ⳳ"⟩, ⟨0x2D6F, 0x2D6F, "ⵡ"⟩, ⟨0x2E9F, 0x2E9F, "母"⟩, ⟨0x2EF3, 0x2EF3, "龟"⟩,
  ⟨0x2F00, 0x2F20, "一 丨 丶 丿 乙 亅 二 亠 人 儿 入 八 冂 冖 冫 几 凵 刀 力 勹 匕 匚 匸 十 卜 卩 厂 厶 又 口 囗 土 士"⟩,
  ⟨0x2F21, 0x2F41, "夂 夊 夕 大 女 子 宀 寸 小 尢 尸 屮 山 巛 工 己 巾 干 幺 广 廴 廾 弋 弓 彐 彡 彳 心 戈 戶 手 支 攴"⟩,
  ⟨0x2F42, 0x2F62, "文 斗 斤 方 无 日 曰 月 木 欠 止 歹 殳 毋 比 毛 氏 气 水 火 爪 父 爻 爿 片 牙 牛 犬 玄 玉 瓜 瓦 甘"⟩,
  ⟨0x2F63, 0x2F83, "生 用 田 疋 疒 癶 白 皮 皿 目 矛 矢 石 示 禸 禾 穴 立 竹 米 糸 缶 网 羊 羽 老 而 耒 耳 聿 肉 臣 自"⟩,
  ⟨0x2F84, 0x2FA4, "至 臼 舌 舛 舟 艮 色 艸 虍 虫 血 行 衣 襾 見 角 言 谷 豆 豕 豸 貝 赤 走 足 身 車 辛 辰 辵 邑 酉 釆"⟩,
  ⟨0x2FA5, 0x2FC5, "里 金 長 門 阜 隶 隹 雨 靑 非 面 革 韋 韭 音 頁 風 飛 食 首 香 馬 骨 高 髟 鬥 鬯 鬲 鬼 魚 鳥 鹵 鹿"⟩,
  ⟨0x2FC6, 0x2FD5, "麥 麻 黃 黍 黑 黹 黽 鼎 鼓 鼠 鼻 齊 齒 龍 龜 龠"⟩, ⟨0x3002, 0x3002, "."⟩,
  ⟨0x3036, 0x3036, "〒"⟩, ⟨0x3038, 0x303A, "十 卄 卅"⟩, ⟨0x309F, 0x309F, "より"⟩,
  ⟨0x30FF, 0x30FF, "コト"⟩, ⟨0x3131, 0x3139, "ᄀ ᄁ ᆪ ᄂ ᆬ ᆭ ᄃ ᄄ ᄅ"⟩, ⟨0x3140, 0x3144, "ᄚ ᄆ ᄇ ᄈ ᄡ"⟩,
  ⟨0x3165, 0x3177, "ᄔ ᄕ ᇇ ᇈ ᇌ ᇎ ᇓ ᇗ ᇙ ᄜ ᇝ ᇟ ᄝ ᄞ ᄠ ᄢ ᄣ ᄧ ᄩ"⟩,
  ⟨0x317D, 0x318E, "ᄲ ᄶ ᅀ ᅇ ᅌ ᇱ ᇲ ᅗ ᅘ ᅙ ᆄ ᆅ ᆈ ᆑ ᆒ ᆔ ᆞ ᆡ"⟩,
  ⟨0x3192, 0x319F, "一 二 三 四 上 中 下 甲 乙 丙 丁 天 地 人"⟩,
  ⟨0x3200, 0x320F, "(ᄀ) (ᄂ) (ᄃ) (ᄅ) (ᄆ) (ᄇ) (ᄉ) (ᄋ) (ᄌ) (ᄎ) (ᄏ) (ᄐ) (ᄑ) (ᄒ) (가) (나)"⟩,
  ⟨0x3210, 0x321E, "(다) (라) (마) (바) (사) (아) (자) (차) (카) (타) (파) (하) (주) (오전) (오후)"⟩,
  ⟨0x3220, 0x322F, "(一) (二) (三) (四) (五) (六) (七) (八) (九) (十) (月) (火) (水) (木) (金) (土)"⟩,
  ⟨0x3230, 0x323F, "(日) (株) (有) (社) (名) (特) (財) (祝) (労) (代) (呼) (学) (監) (企) (資) (協)"⟩,
  ⟨0x3240, 0x3247, "(祭) (休) (自) (至) 問 幼 文 箏"⟩,
  ⟨0x3250, 0x3268, "pte 21 22 23 24 25 26 27 28 29 30 31 32 33 34 35 ᄀ ᄂ ᄃ ᄅ ᄆ ᄇ ᄉ ᄋ ᄌ"⟩,
  ⟨0x326E, 0x327E, "가 나 다 라 마 바 사 아 자 차 카 타 파 하 참고 주의 우"⟩,
  ⟨0x3280, 0x32A0, "一 二 三 四 五 六 七 八 九 十 月 火 水 木 金 土 日 株 有 社 名 特 財 祝 労 秘 男 女 適 優 印 注 項"⟩,
  ⟨0x32A1, 0x32BB, "休 写 正 上 中 下 左 右 医 宗 学 監 企 資 協 夜 36 37 38 39 40 41 42 43 44 45 46"⟩,
  ⟨0x32BC, 0x32D0, "47 48 49 50 1月 2月 3月 4月 5月 6月 7月 8月 9月 10月 11月 12月 hg erg ev ltd ア"⟩,
  ⟨0x32D1, 0x32E3, "イ ウ エ オ カ キ ク ケ コ サ シ ス セ ソ タ チ ツ テ ト"⟩, ⟨0x32EA, 0x32ED, "ヒ フ ヘ ホ"⟩,
  ⟨0x32F3, 0x32F4, "ヤ ユ"⟩,
  ⟨0x32FB, 0x330B, "ワ ヰ ヱ ヲ 令和 アパート アルファ アンペア アール イニング インチ ウォン エスクード エーカー オンス オーム カイリ"⟩,
  ⟨0x330C, 0x3319, "カラット カロリー ガロン ガンマ ギガ ギニー キュリー ギルダー キロ キログラム キロメートル キロワット グラム グラムトン"⟩,
  ⟨0x331A, 0x3329, "クルゼイロ クローネ ケース コルナ コーポ サイクル サンチーム シリング センチ セント ダース デシ ドル トン ナノ ノット"⟩,
  ⟨0x332A, 0x3337, "ハイツ パーセント パーツ バーレル ピアストル ピクル ピコ ビル ファラッド フィート ブッシェル フラン ヘクタール ペソ"⟩,
  ⟨0x3338, 0x3347, "ペニヒ ヘルツ ペンス ページ ベータ ポイント ボルト ホン ポンド ホール ホーン マイクロ マイル マッハ マルク マンション"⟩,
  ⟨0x3348, 0x3356, "ミクロン ミリ ミリバール メガ メガトン メートル ヤード ヤール ユアン リットル リラ ルピー ルーブル レム レントゲン"⟩,
  ⟨0x3357, 0x3369, "ワット 0点 1点 2点 3点 4点 5点 6点 7点 8点 9点 10点 11点 12点 13点 14点 15点 16点 17点"⟩,
  ⟨0x336A, 0x337B, "18点 19点 20点 21点 22点 23点 24点 hpa da au bar ov pc dm dm2 dm3 iu 平成"⟩,
  ⟨0x337C, 0x338F, "昭和 大正 明治 株式会社 pa na μa ma ka kb mb gb cal kcal pf nf μf μg mg kg"⟩,
  ⟨0x3390, 0x33A2, "hz khz mhz ghz thz μl ml dl kl fm nm μm mm cm km mm2 cm2 m2 km2"⟩,
  ⟨0x33A3, 0x33B2, "mm3 cm3 m3 km3 m∕s m∕s2 pa kpa mpa gpa rad rad∕s rad∕s2 ps ns μs"⟩,
  ⟨0x33B3, 0x33C1, "ms pv nv μv mv kv mv pw nw μw mw kw mw kω mω"⟩,
  ⟨0x33C3, 0x33C6, "bq cc cd c∕kg"⟩,
  ⟨0x33C8, 0x33D7, "db gy ha hp in kk km kt lm ln log lx mb mil mol ph"⟩,
  ⟨0x33D9, 0x33EC, "ppm pr sr sv wb v∕m a∕m 1日 2日 3日 4日 5日 6日 7日 8日 9日 10日 11日 12日 13日"⟩,
  ⟨0x33ED, 0x33FC, "14日 15日 16日 17日 18日 19日 20日 21日 22日 23日 24日 25日 26日 27日 28日 29日"⟩,
  ⟨0x33FD, 0x33FF, "30日 31日 gal"⟩, ⟨0xA69C, 0xA69D, "ъ ь"⟩, ⟨0xA770, 0xA770, "ꝯ"⟩,
  ⟨0xA779, 0xA779, "ꝺ"⟩, ⟨0xA77B, 0xA77B, "ꝼ"⟩, ⟨0xA77D, 0xA77D, "ᵹ"⟩, ⟨0xA78B, 0xA78B, "ꞌ"⟩,
  ⟨0xA78D, 0xA78D, "ɥ"⟩, ⟨0xA790, 0xA790, "ꞑ"⟩, ⟨0xA792, 0xA792, "ꞓ"⟩,
  ⟨0xA7AA, 0xA7AE, "ɦ ɜ ɡ ɬ ɪ"⟩, ⟨0xA7B0, 0xA7B3, "ʞ ʇ ʝ ꭓ"⟩, ⟨0xA7C4, 0xA7C7, "ꞔ ʂ ᶎ ꟈ"⟩,
  ⟨0xA7C9, 0xA7C9, "ꟊ"⟩, ⟨0xA7CB, 0xA7CB, "ɤ"⟩, ⟨0xA7DC, 0xA7DC, "ƛ"⟩,
  ⟨0xA7F1, 0xA7F5, "s c f q ꟶ"⟩, ⟨0xA7F8, 0xA7F9, "ħ œ"⟩, ⟨0xAB5C, 0xAB5F, "ꜧ ꬷ ɫ ꭒ"⟩,
  ⟨0xAB69, 0xAB69, "ʍ"⟩, ⟨0xFB00, 0xFB06, "ff fi fl ffi ffl st st"⟩,
  ⟨0xFB13, 0xFB17, "մն մե մի վն մխ"⟩, ⟨0xFB20, 0xFB29, "ע א ד ה כ ל ם ר ת +"⟩,
  ⟨0xFB4F, 0xFB6F, "אל ٱ ٱ ٻ ٻ ٻ ٻ پ پ پ پ ڀ ڀ ڀ ڀ ٺ ٺ ٺ ٺ ٿ ٿ ٿ ٿ ٹ ٹ ٹ ٹ ڤ ڤ ڤ ڤ ڦ ڦ"⟩,
  ⟨0xFB70, 0xFB90, "ڦ ڦ ڄ ڄ ڄ ڄ ڃ ڃ ڃ ڃ چ چ چ چ ڇ ڇ ڇ ڇ ڍ ڍ ڌ ڌ ڎ ڎ ڈ ڈ ژ ژ ڑ ڑ ک ک ک"⟩,
  ⟨0xFB91, 0xFBB1, "ک گ گ گ گ ڳ ڳ ڳ ڳ ڱ ڱ ڱ ڱ ں ں ڻ ڻ ڻ ڻ ۀ ۀ ہ ہ ہ ہ ھ ھ ھ ھ ے ے ۓ ۓ"⟩,
  ⟨0xFBD3, 0xFBEF, "ڭ ڭ ڭ ڭ ۇ ۇ ۆ ۆ ۈ ۈ ۇٴ ۋ ۋ ۅ ۅ ۉ ۉ ې ې ې ې ى ى ئا ئا ئە ئە ئو ئو"⟩,
  ⟨0xFBF0, 0xFC06, "ئۇ ئۇ ئۆ ئۆ ئۈ ئۈ ئې ئې ئې ئى ئى ئى ی ی ی ی ئج ئح ئم ئى ئي بج بح"⟩,
  ⟨0xFC07, 0xFC1C, "بخ بم بى بي تج تح تخ تم تى تي ثج ثم ثى ثي جح جم حج حم خج خح خم سج"⟩,
  ⟨0xFC1D, 0xFC32, "سح سخ سم صح صم ضج ضح ضخ ضم طح طم ظم عج عم غج غم فج فح فخ فم فى في"⟩,
  ⟨0xFC33, 0xFC48, "قح قم قى قي كا كج كح كخ كل كم كى كي لج لح لخ لم لى لي مج مح مخ مم"⟩,
  ⟨0xFC49, 0xFC5B, "مى مي نج نح نخ نم نى ني هج هم هى هي يج يح يخ يم يى يي ذ\u0670"⟩,
  ⟨0xFC5C, 0xFC5D, "ر\u0670 ى\u0670"⟩,
  ⟨0xFC64, 0xFC79, "ئر ئز ئم ئن ئى ئي بر بز بم بن بى بي تر تز تم تن تى تي ثر ثز ثم ثن"⟩,
  ⟨0xFC7A, 0xFC8F, "ثى ثي فى في قى قي كا كل كم كى كي لم لى لي ما مم نر نز نم نن نى ني"⟩,
  ⟨0xFC90, 0xFCA3, "ى\u0670 ير يز يم ين يى يي ئج ئح ئخ ئم ئه بج بح بخ بم به تج تح تخ"⟩,
  ⟨0xFCA4, 0xFCB9, "تم ته ثم جح جم حج حم خج خم سج سح سخ سم صح صخ صم ضج ضح ضخ ضم طح ظم"⟩,
  ⟨0xFCBA, 0xFCCF, "عج عم غج غم فج فح فخ فم قح قم كج كح كخ كل كم لج لح لخ لم له مج مح"⟩,
  ⟨0xFCD0, 0xFCE3, "مخ مم نج نح نخ نم نه هج هم ه\u0670 يج يح يخ يم يه ئم ئه بم به تم"⟩,
  ⟨0xFCE4, 0xFCF2, "ته ثم ثه سم سه شم شه كل كم لم نم نه يم يه ـ\u064e\u0651"⟩,
  ⟨0xFCF3, 0xFD01, "ـ\u064f\u0651 ـ\u0650\u0651 طى طي عى عي غى غي سى سي شى شي حى حي جى"⟩,
  ⟨0xFD02, 0xFD17, "جي خى خي صى صي ضى ضي شج شح شخ شم شر سر صر ضر طى طي عى عي غى غي سى"⟩,
  ⟨0xFD18, 0xFD2D, "سي شى شي حى حي جى جي خى خي صى صي ضى ضي شج شح شخ شم شر سر صر ضر شج"⟩,
  ⟨0xFD2E, 0xFD3D, "شح شخ شم سه شه طم سج سح سخ شج شح شخ طم ظم ا\u064b ا\u064b"⟩,
  ⟨0xFD50, 0xFD5F, "تجم تحج تحج تحم تخم تمج تمح تمخ جمح جمح حمي حمى سحج سجح سجى سمح"⟩,
  ⟨0xFD60, 0xFD6F, "سمح سمج سمم سمم صحح صحح صمم شحم شحم شجي شمخ شمخ شمم شمم ضحى ضخم"⟩,
  ⟨0xFD70, 0xFD7F, "ضخم طمح طمح طمم طمي عجم عمم عمم عمى غمم غمي غمى فخم فخم قمح قمم"⟩,
  ⟨0xFD80, 0xFD8F, "لحم لحي لحى لجج لجج لخم لخم لمح لمح محج محم محي مجح مجم مخج مخم"⟩,
  ⟨0xFD92, 0xFDA1, "مجخ همج همم نحم نحى نجم نجم نجى نمي نمى يمم يمم بخي تجي تجى تخي"⟩,
  ⟨0xFDA2, 0xFDB1, "تخى تمي تمى جمي جحى جمى سخى صحي شحي ضحي لجي لمي يحي يجي يمي ممي"⟩,
  ⟨0xFDB2, 0xFDC1, "قمي نحي قمح لحم عمي كمي نجح مخي لجم كمم لجم نجح جحي حجي مجي فمي"⟩,
  ⟨0xFDC2, 0xFDC7, "بحي كمم عجم صمم سخي نجي"⟩,
  ⟨0xFDF0, 0xFDF9, "صلے قلے الله اكبر محمد صلعم رسول عليه وسلم صلى"⟩, ⟨0xFDFC, 0xFDFC, "ریال"⟩,
  ⟨0xFE10, 0xFE11, ", 、"⟩, ⟨0xFE14, 0xFE15, "; !"⟩, ⟨0xFE17, 0xFE18, "〖 〗"⟩,
  ⟨0xFE31, 0xFE44, "— – _ _ ( ) \x7b \x7d 〔 〕 【 】 《 》 〈 〉 「 」 『 』"⟩,
  ⟨0xFE4D, 0xFE51, "_ _ _ , 、"⟩, ⟨0xFE54, 0xFE54, ";"⟩, ⟨0xFE57, 0xFE5E, "! — ( ) \x7b \x7d 〔 〕"⟩,
  ⟨0xFE60, 0xFE66, "& * + - < > ="⟩, ⟨0xFE69, 0xFE69, "$"⟩, ⟨0xFE71, 0xFE71, "ـ\u064b"⟩,
  ⟨0xFE77, 0xFE77, "ـ\u064e"⟩, ⟨0xFE79, 0xFE79, "ـ\u064f"⟩, ⟨0xFE7B, 0xFE7B, "ـ\u0650"⟩,
  ⟨0xFE7D, 0xFE7D, "ـ\u0651"⟩,
  ⟨0xFE7F, 0xFE9C, "ـ\u0652 ء آ آ أ أ ؤ ؤ إ إ ئ ئ ئ ئ ا ا ب ب ب ب ة ة ت ت ت ت ث ث ث ث"⟩,
  ⟨0xFE9D, 0xFEBD, "ج ج ج ج ح ح ح ح خ خ خ خ د د ذ ذ ر ر ز ز س س س س ش ش ش ش ص ص ص ص ض"⟩,
  ⟨0xFEBE, 0xFEDE, "ض ض ض ط ط ط ط ظ ظ ظ ظ ع ع ع ع غ غ غ غ ف ف ف ف ق ق ق ق ك ك ك ك ل ل"⟩,
  ⟨0xFEDF, 0xFEFB, "ل ل م م م م ن ن ن ن ه ه ه ه و و ى ى ي ي ي ي لآ لآ لأ لأ لإ لإ لا"⟩,
  ⟨0xFEFC, 0xFEFC, "لا"⟩, ⟨0xFF01, 0xFF02, "! \""⟩, ⟨0xFF04, 0xFF04, "$"⟩, ⟨0xFF06, 0xFF06, "&"⟩,
  ⟨0xFF1B, 0xFF1E, "; < = >"⟩,
  ⟨0xFF5D, 0xFF7C, "\x7d ~ ⦅ ⦆ . 「 」 、 ・ ヲ ァ ィ ゥ ェ ォ ャ ュ ョ ッ ー ア イ ウ エ オ カ キ ク ケ コ サ シ"⟩,
  ⟨0xFF7D, 0xFF84, "ス セ ソ タ チ ツ テ ト"⟩, ⟨0xFF8B, 0xFF8E, "ヒ フ ヘ ホ"⟩, ⟨0xFF94, 0xFF95, "ヤ ユ"⟩,
  ⟨0xFF9C, 0xFF9F, "ワ ン \u3099 \u309a"⟩, ⟨0xFFA1, 0xFFA9, "ᄀ ᄁ ᆪ ᄂ ᆬ ᆭ ᄃ ᄄ ᄅ"⟩,
  ⟨0xFFB0, 0xFFB4, "ᄚ ᄆ ᄇ ᄈ ᄡ"⟩, ⟨0xFFDA, 0xFFDC, "ᅳ ᅴ ᅵ"⟩, ⟨0xFFE0, 0xFFE2, "¢ £ ¬"⟩,
  ⟨0xFFE4, 0xFFE6, "¦ ¥ ₩"⟩, ⟨0xFFE8, 0xFFEE, "│ ← ↑ → ↓ ■ ○"⟩, ⟨0x10594, 0x10595, "𐖻 𐖼"⟩,
  ⟨0x10781, 0x10785, "ː ˑ æ ʙ ɓ"⟩,
  ⟨0x10787, 0x107A6, "ʣ ꭦ ʥ ʤ ɖ ɗ ᶑ ɘ ɞ ʩ ɤ ɢ ɠ ʛ ħ ʜ ɧ ʄ ʪ ʫ ɬ 𝼄 ꞎ ɮ 𝼅 ʎ 𝼆 ø ɶ ɷ q ɺ"⟩,
  ⟨0x107A7, 0x107B0, "𝼈 ɽ ɾ ʀ ʨ ʦ ꭧ ʧ ʈ ⱱ"⟩, ⟨0x107B2, 0x107BA, "ʏ ʡ ʢ ʘ ǀ ǁ ǂ 𝼊 𝼞"⟩,
  ⟨0x1D49C, 0x1D49C, "a"⟩, ⟨0x1D49E, 0x1D49F, "c d"⟩, ⟨0x1D4A2, 0x1D4A2, "g"⟩,
  ⟨0x1D4A5, 0x1D4A6, "j k"⟩, ⟨0x1D4A9, 0x1D4AC, "n o p q"⟩, ⟨0x1D4B6, 0x1D4B9, "a b c d"⟩,
  ⟨0x1D4BB, 0x1D4BB, "f"⟩, ⟨0x1D4BD, 0x1D4BD, "h"⟩, ⟨0x1D504, 0x1D505, "a b"⟩,
  ⟨0x1D507, 0x1D50A, "d e f g"⟩, ⟨0x1D538, 0x1D539, "a b"⟩, ⟨0x1D53B, 0x1D53E, "d e f g"⟩,
  ⟨0x1D546, 0x1D546, "o"⟩, ⟨0x1D6A4, 0x1D6A5, "ı ȷ"⟩, ⟨0x1D6B9, 0x1D6B9, "θ"⟩,
  ⟨0x1D6C1, 0x1D6C1, "∇"⟩, ⟨0x1D6D3, 0x1D6D3, "σ"⟩, ⟨0x1D6DB, 0x1D6E1, "∂ ε θ κ φ ρ π"⟩,
  ⟨0x1D6F3, 0x1D6F3, "θ"⟩, ⟨0x1D6FB, 0x1D6FB, "∇"⟩, ⟨0x1D70D, 0x1D70D, "σ"⟩,
  ⟨0x1D715, 0x1D71B, "∂ ε θ κ φ ρ π"⟩, ⟨0x1D72D, 0x1D72D, "θ"⟩, ⟨0x1D735, 0x1D735, "∇"⟩,
  ⟨0x1D747, 0x1D747, "σ"⟩, ⟨0x1D74F, 0x1D755, "∂ ε θ κ φ ρ π"⟩, ⟨0x1D767, 0x1D767, "θ"⟩,
  ⟨0x1D76F, 0x1D76F, "∇"⟩, ⟨0x1D781, 0x1D781, "σ"⟩, ⟨0x1D789, 0x1D78F, "∂ ε θ κ φ ρ π"⟩,
  ⟨0x1D7A1, 0x1D7A1, "θ"⟩, ⟨0x1D7A9, 0x1D7A9, "∇"⟩, ⟨0x1D7BB, 0x1D7BB, "σ"⟩,
  ⟨0x1D7C3, 0x1D7CB, "∂ ε θ κ φ ρ π ϝ ϝ"⟩, ⟨0x1E039, 0x1E03B, "к л м"⟩,
  ⟨0x1E047, 0x1E050, "ы э ю ꚉ ә і ј ө ү ӏ"⟩, ⟨0x1E05A, 0x1E05E, "к л о п с"⟩,
  ⟨0x1E065, 0x1E06D, "ъ ы ґ і ѕ џ ҫ ꙑ ұ"⟩, ⟨0x1EE00, 0x1EE03, "ا ب ج د"⟩,
  ⟨0x1EE05, 0x1EE1F, "و ز ح ط ي ك ل م ن س ع ف ص ق ر ش ت ث خ ذ ض ظ غ ٮ ں ڡ ٯ"⟩,
  ⟨0x1EE21, 0x1EE22, "ب ج"⟩, ⟨0x1EE24, 0x1EE24, "ه"⟩, ⟨0x1EE27, 0x1EE27, "ح"⟩,
  ⟨0x1EE29, 0x1EE32, "ي ك ل م ن س ع ف ص ق"⟩, ⟨0x1EE34, 0x1EE37, "ش ت ث خ"⟩,
  ⟨0x1EE39, 0x1EE39, "ض"⟩, ⟨0x1EE3B, 0x1EE3B, "غ"⟩, ⟨0x1EE42, 0x1EE42, "ج"⟩,
  ⟨0x1EE47, 0x1EE47, "ح"⟩, ⟨0x1EE49, 0x1EE49, "ي"⟩, ⟨0x1EE4B, 0x1EE4B, "ل"⟩,
  ⟨0x1EE4D, 0x1EE4F, "ن س ع"⟩, ⟨0x1EE51, 0x1EE52, "ص ق"⟩, ⟨0x1EE54, 0x1EE54, "ش"⟩,
  ⟨0x1EE57, 0x1EE57, "خ"⟩, ⟨0x1EE59, 0x1EE59, "ض"⟩, ⟨0x1EE5B, 0x1EE5B, "غ"⟩,
  ⟨0x1EE5D, 0x1EE5D, "ں"⟩, ⟨0x1EE5F, 0x1EE5F, "ٯ"⟩, ⟨0x1EE61, 0x1EE62, "ب ج"⟩,
  ⟨0x1EE64, 0x1EE64, "ه"⟩, ⟨0x1EE67, 0x1EE6A, "ح ط ي ك"⟩, ⟨0x1EE6C, 0x1EE72, "م ن س ع ف ص ق"⟩,
  ⟨0x1EE74, 0x1EE77, "ش ت ث خ"⟩, ⟨0x1EE79, 0x1EE7C, "ض ظ غ ٮ"⟩, ⟨0x1EE7E, 0x1EE7E, "ڡ"⟩,
  ⟨0x1EE80, 0x1EE89, "ا ب ج د ه و ز ح ط ي"⟩,
  ⟨0x1EE8B, 0x1EE9B, "ل م ن س ع ف ص ق ر ش ت ث خ ذ ض ظ غ"⟩, ⟨0x1EEA1, 0x1EEA3, "ب ج د"⟩,
  ⟨0x1EEA5, 0x1EEA9, "و ز ح ط ي"⟩, ⟨0x1EEAB, 0x1EEBB, "ل م ن س ع ف ص ق ر ش ت ث خ ذ ض ظ غ"⟩,
  ⟨0x1F101, 0x1F10A, "0, 1, 2, 3, 4, 5, 6, 7, 8, 9,"⟩,
  ⟨0x1F110, 0x1F11F, "(a) (b) (c) (d) (e) (f) (g) (h) (i) (j) (k) (l) (m) (n) (o) (p)"⟩,
  ⟨0x1F120, 0x1F12E, "(q) (r) (s) (t) (u) (v) (w) (x) (y) (z) 〔s〕 c r cd wz"⟩,
  ⟨0x1F14A, 0x1F14F, "hv mv sd ss ppv wc"⟩, ⟨0x1F16A, 0x1F16C, "mc md mr"⟩,
  ⟨0x1F190, 0x1F190, "dj"⟩, ⟨0x1F200, 0x1F202, "ほか ココ サ"⟩,
  ⟨0x1F210, 0x1F230, "手 字 双 デ 二 多 解 天 交 映 無 料 前 後 再 新 初 終 生 販 声 吹 演 投 捕 一 三 遊 左 中 右 指 走"⟩,
  ⟨0x1F231, 0x1F23B, "打 禁 空 合 満 有 月 申 割 営 配"⟩,
  ⟨0x1F240, 0x1F248, "〔本〕 〔三〕 〔二〕 〔安〕 〔点〕 〔打〕 〔盗〕 〔勝〕 〔敗〕"⟩, ⟨0x1F250, 0x1F251, "得 可"⟩]

/-- Whether a character is among those in a row. -/
def Spelling.covers (s : Spelling) (n : Nat) : Bool := s.first ≤ n && n ≤ s.last

/-- What a code point in the row stands for. -/
def Spelling.word (s : Spelling) (n : Nat) : List Char :=
  (split (· == ' ') s.words.toList).getD (n - s.first) []

/-! ## Folding -/

/-- What a character stands for. -/
def fold (c : Char) : List Char :=
  let n := c.toNat
  if n < 0x80 then [c.toLower]
  else if isDropped c then []
  else
    match foldRuns.find? fun r => r.covers n, spellings.find? fun s => s.covers n with
    | some r, _ => [Char.ofNat (n + r.shift).toNat]
    | none, some s => s.word n
    | none, none => [c]

end TokenCustody.Url
