import WaterCare.Py.Unicode

/-!
`signal_detector.py`: the physical observations that a customer's text asserts, found with patterns
and kept where neither a denial nor a condition speaks of them.
-/

namespace WaterCare.Ai.SignalDetector
open Py

/-- A text, by its characters. -/
abbrev Text := List Char

inductive Signal
  | electricalComponentDamage
  | exposedWire
  | waterNearElectricalPart
  | waterLeak
  | smokeOrBurn
  | shockOrSpark
  | refrigerantLeakOrLineDamage
  deriving DecidableEq, Repr

def Signal.all : List Signal :=
  [.electricalComponentDamage, .exposedWire, .waterNearElectricalPart, .waterLeak, .smokeOrBurn,
    .shockOrSpark, .refrigerantLeakOrLineDamage]

/-! ### The patterns -/

def part : Pattern :=
  .any [.texts ["전선", "전원선"], .all [.text "전원", .spaces, .text "코드"],
    .texts ["케이블", "플러그", "콘센트"]]

def damage : Pattern := .texts ["벗겨", "손상", "찢어", "끊어", "파손"]

/-- `(?=$|\s|[.!?])`. -/
def ending : Pattern := .ahead (.any [.stop, .space, .among ".!?"])

def water : Pattern := .all [.text "물", .opt (.among "이가은도"), ending]

def refrigerant : Pattern :=
  .any [.text "냉매", .all [.text "r", .spaces, .text "600a"], .text "이소부탄"]

def refrigerantContext : Pattern :=
  .any [refrigerant, .all [.text "냉매", .spaces, .texts ["배관", "관", "파이프"]], .text "냉매관"]

def refrigerantHazard : Pattern :=
  .any [.text "누출",
    .all [.text "새",
      .any [.texts ["요", "네요", "어", "고", "는"], .all [.text "는", .spaces, .text "것"],
        .all [.text "는", .spaces, .text "듯"],
        .all [.text "는", .spaces, .text "것", .spaces, .text "같"]]],
    .texts ["샙", "샜", "손상", "파손", "찢어", "깨져", "구멍"],
    .all [.text "가스", .opt (.among "가는"), .spaces, .text "새"]]

/-- `_PATTERNS`. -/
def Signal.pattern : Signal → Pattern
  | .electricalComponentDamage =>
      .any [.all [part, .upToLazy 16 .dot, damage], .all [damage, .upToLazy 12 .dot, part]]
  | .exposedWire =>
      .any [.all [.texts ["구리선", "도체"], .upToLazy 8 .dot, .texts ["노출", "보이", "드러"]],
        .all [part, .upToLazy 12 .dot,
          .any [.all [.text "피복", .upToLazy 6 .dot, .text "벗겨"], .text "노출",
            .all [.text "속이", .spaces, .text "보"]]]]
  | .waterNearElectricalPart =>
      .any [.all [part, .upToLazy 16 .dot,
          .any [.texts ["젖", "물기", "누수", "침수"],
            .all [.text "물", .opt (.among "이가에"), .spaces,
              .any [.texts ["고", "새", "묻", "튀", "흐르"],
                .all [.text "들어", .among "가갔오왔"], .all [.text "잠", .among "기겨겼"]]]]],
        .all [.texts ["물기", "누수", "젖"], .upToLazy 12 .dot, part],
        .all [part, .spaces, .texts ["주변", "근처", "옆", "아래"], .opt (.text "에"), .spaces, water]]
  | .waterLeak =>
      .any [.text "누수",
        .all [.texts ["물", "냉수", "온수", "정수"], .opt (.among "이가는도"), .spaces,
          .opt (.texts ["자꾸", "계속"]), .spaces,
          .any [.all [.text "새", .texts ["요", "네요", "어", "고", "는", "지", "면", "서", "다"]],
            .text "샙", .all [.text "샘", ending], .texts ["샜", "흘러나"]]],
        .all [.any [.text "바닥", .all [.text "제품", .spaces, .texts ["밑", "아래", "하부"]],
            .all [.text "정수기", .spaces, .texts ["밑", "아래", "하부"]]],
          .upToLazy 8 .dot, .any [water, .text "젖"]]]
  | .smokeOrBurn =>
      .any [.texts ["연기", "화재"], .all [.text "불이", .spaces, .text "남"],
        .all [.text "탄", .spaces, .text "냄새"], .all [.text "타는", .spaces, .text "냄새"],
        .text "그을"]
  | .shockOrSpark => .texts ["감전", "스파크", "불꽃", "찌릿"]
  | .refrigerantLeakOrLineDamage =>
      .any [.all [refrigerantContext, .upToLazy 36 .dot, refrigerantHazard],
        .all [refrigerantHazard, .upToLazy 28 .dot, refrigerantContext]]

/-- `_BOUNDARY`. -/
def boundary : Pattern :=
  let syllable (c : Char) : Bool := decide ('가' ≤ c ∧ c ≤ '힣')
  .any [.among ".!?\n;,", .texts ["하지만", "그런데", "다만"],
    .all [.texts ["없", "아니", "않"], .upTo 3 .hangul, .texts ["고", "지만"]],
    .all [.behind syllable, .texts ["지만", "는데", "은데", "인데"], .opt (.text "도"),
      .ahead (.any [.space, .stop, .among ",.!?"])],
    .all [.behind syllable, .text "고",
      .ahead (.all [.plus .space, .notAhead (.texts ["있", "없", "싶", "보이"]),
        .atLeast 2 .hangul, .texts ["에는", "은", "는", "이", "가", "도"], .space])]]

/-- `_DENIAL`. -/
def denial : Pattern :=
  .any [.text "없",
    .all [.text "아니",
      .texts ["에요", "예요", "어요", "고", "라", "며", "다", "요", "지만", "죠"]],
    .texts ["아닙", "아님"],
    .all [.texts ["나", "발생하", "튀", "새", "새어", "벗겨지", "노출되", "손상되", "파손되", "젖",
        "보이", "들어가", "들어오", "잠기", "침수되"],
      .text "지", .spaces, .text "않"],
    .all [.text "안", .spaces,
      .texts ["나", "발생", "튀", "새", "벗겨", "노출", "손상", "젖", "보", "들어", "잠", "침수"]]]

/-- `_HYPOTHETICAL`. -/
def hypothetical : Pattern :=
  .any [.texts ["라면", "다면"], .all [.text "일", .spaces, .text "경우"], .text "가정",
    .all [.texts ["나", "발생하", "튀", "새", "벗겨지", "노출되", "손상되", "들어가", "들어오",
        "잠기", "침수되"], .text "면"],
    .text "젖으면"]

/-- `_MENTION`. -/
def mention : Pattern :=
  .any [part, refrigerantContext,
    .texts ["가스", "연기", "화재", "스파크", "불꽃", "누수", "감전", "히터"],
    .all [.text "온수", .spaces, .text "모듈"], .all [.text "물", .opt (.among "이가은도")]]

/-- A heater that is named, and that it is said to be in order. -/
def heater : Pattern :=
  .any [.all [.opt (.all [.text "순간", .spaces]), .text "온수", .spaces, .text "모듈"],
    .all [.opt (.all [.text "온수", .spaces]), .text "히터"]]

def inOrder : Pattern :=
  .all [.opt (.among "은는이가도"), .spaces, .text "정상",
    .texts ["입니다", "이에요", "이다", "임", "이고", "인데", "이지만"]]

/-- `없지\s*않|없는\s*것은\s*아니`. -/
def doubleDenial : Pattern :=
  .any [.all [.text "없지", .spaces, .text "않"],
    .all [.text "없는", .spaces, .text "것은", .spaces, .text "아니"]]

/-! ### What a text asserts -/

/-- A match by the numbers of its first and its last place. -/
def offsets (span : Place × Place) : Nat × Nat := (span.1.before.length, span.2.before.length)

/-- `text[start:stop]`. -/
def slice (text : Text) (start stop : Nat) : Text := (text.take stop).drop start

/-- `_normalize`. -/
def normalize (u : Unicode) (text : Text) : Text :=
  (u.casefold (u.nfkc text)).filter fun c => !u.isFormat c

/-- The loop over the boundaries: where the clause of a match starts, and where it ends. -/
def clause (start stop left : Nat) : List (Nat × Nat) → Nat × Option Nat
  | [] => (left, none)
  | b :: rest =>
      if b.2 ≤ start then clause start stop b.2 rest
      else if start ≤ b.1 ∧ stop ≤ b.2 then (left, some b.2)
      else clause start stop left rest

/-- The words that join two things that are mentioned. -/
def joining : List Text :=
  ["와", "과", "및", "하고", "랑", "이랑", "도", ","].map String.toList

/-- `_asserted`. -/
def asserted (text : Text) (start stop : Nat) (negatedPredicate : Bool) : Bool :=
  let (left, found) := clause start stop 0 ((boundary.finditer (.start text)).map offsets)
  let bound := found.getD text.length
  let next := (mention.finditer ⟨(text.take stop).reverse, slice text stop bound⟩).find? fun span =>
    stripChars (slice text stop span.1.before.length) ∉ joining
  let right := (next.map (·.1.before.length)).getD bound
  -- With a negated predicate only what follows the match may deny it.
  let after := slice text (if negatedPredicate then stop else start) (min right (stop + 28))
  if (heater (.start (slice text start stop))).any (·.after.isEmpty) &&
      !(inOrder (.start (slice text stop right))).isEmpty then false
  else if contained "만약" (slice text (max left (start - 8)) start) || hypothetical.within after then
    false
  else doubleDenial.within after || !denial.within ((Pattern.text "뿐 아니라").sub (fun _ => []) after)

section
variable (u : Unicode)

/-- The first match of a signal that is asserted. -/
def findAsserted (text : Text) (signal : Signal) : Option Text :=
  ((signal.pattern.finditer (.start text)).find? fun span =>
    asserted text (offsets span).1 (offsets span).2 false).map fun span => span.1.upTo span.2

/-- `detect_safety_evidence`. -/
def detectSafetyEvidence (text : Text) : List (Signal × Text) :=
  Signal.all.filterMap fun signal =>
    (findAsserted (normalize u text) signal).map fun quote => (signal, quote)

/-- `supports_safety_quote`. -/
def supportsSafetyQuote (text : Text) (signal : Signal) (quote : Text) : Bool :=
  let normalized := normalize u text
  let quote := normalize u quote
  !(stripChars quote).isEmpty &&
    ((Pattern.all (quote.map .char)).finditer (.start normalized)).any fun source =>
      (signal.pattern.finditer (.start quote)).any fun span =>
        let start := (offsets source).1
        asserted normalized (start + (offsets span).1) (start + (offsets span).2) false

end

end WaterCare.Ai.SignalDetector
