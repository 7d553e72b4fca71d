import Mathlib.Data.List.Sublists
import WaterCare.Machine.Result
import WaterCare.Py.Pattern

/-!
`GuidanceMessageGuard.validate_grounding`: a customer message is made of sentences of the approved
evidence summaries, with the warnings of every summary that it takes a sentence from.
-/

namespace WaterCare.Ai.GuidanceMessageGuard
open Machine Py

/-! ### Sentences -/

/-- `_sentences`. -/
def sentences (value : String) : List String :=
  ((Pattern.split sentenceBreak value.toList).map fun cs => strip (String.ofList cs)).filter (· ≠ "")
where
  sentenceBreak : Pattern :=
    .any [.seq (.behind (".!?。".toList.contains ·)) (.plus .space),
      .plus (.one ("\r\n".toList.contains ·))]

/-- `(?:출수된|해당) 물(?=[은을이])`. -/
def dispensedWater : Pattern :=
  .all [.texts ["출수된", "해당"], .text " 물", .ahead (.one ("은을이".toList.contains ·))]

/-- `하지\s*(?:않습니다|마세요|마십시오|말아\s*주세요)$`. -/
def prohibition : Pattern :=
  .all [.text "하지", .spaces,
    .any [.texts ["않습니다", "마세요", "마십시오"], .all [.text "말아", .spaces, .text "주세요"]],
    .stop]

/-- The ending of a request to do one of the named things. -/
def request : Pattern :=
  .all [.texts ["확인", "점검", "청소", "교체", "사용", "문의", "연락", "출수", "해제", "중지", "중단",
      "차단", "주의", "요청"],
    .any [.texts ["합니다", "하세요", "하십시오"], .all [.text "해", .spaces, .text "주세요"]], .stop]

/-- The words of a condition, a warning or a reference to an expert. -/
def warning (isWord : Char → Bool) : Pattern :=
  .any [.all [.text "하지", .spaces, .texts ["않", "마"]],
    .texts ["금지", "주의", "위험", "화상", "감전", "중지", "중단", "차단", "상담", "문의", "연락", "전문"],
    .all [.text "그", .spaces, .text "후"], .all [.text "이", .spaces, .text "후"],
    .all [.text "이", .spaces, .text "때"], .texts ["그래도", "경우"],
    .all [.opt (.text "으"), .text "면", .boundary isWord],
    .all [.text "때", .opt (.texts ["는", "에"]), .boundary isWord],
    .texts ["이내", "이상", "이하", "미만", "초과"]]

section
variable (nfc : List Char → List Char) (isWord : Char → Bool)

/-- `_canonical_sentence`, for the normalization of `unicodedata`. -/
def canonicalSentence (value : String) : String :=
  let value := collapse (nfc value.toList)
  let value := removePrefix "먼저 " (removeSuffix "。" (removeSuffix "." value))
  let value := dispensedWater.sub (fun _ => "출수된 물".toList) value
  let value := prohibition.sub (fun _ => "하지 않음".toList) value
  -- Each of the things to do has two syllables.
  String.ofList (request.sub (fun found => found.take 2 ++ ['함']) value)

def canonicalSentences (value : String) : List String := (sentences value).map (canonicalSentence nfc)

/-- The warnings of a summary. -/
def requiredSentences (value : String) : List String :=
  ((sentences value).filter (warning isWord).search).map (canonicalSentence nfc)

/-- The check of the sentences that are taken from one summary. -/
def checkGroup (output : List String) (text : String) : Except String Unit :=
  let canonical := canonicalSentences nfc text
  if output.all (· ∉ canonical) then .ok ()
  else if ¬requiredSentences nfc isWord text ⊆ output then
    .error "근거의 조건·경고·상담 안내를 누락했습니다."
  else if ¬((output.filter (· ∈ canonical)).map (canonical.idxOf ·)).Pairwise (· ≤ ·) then
    .error "승인된 조치 순서를 변경했습니다."
  else .ok ()

/-- `validate_grounding`. -/
def validateGrounding (message : String) (groundingTexts : List String) : Except String Unit :=
  let output := canonicalSentences nfc message
  if sentences message = [] ∨ groundingTexts.all (sentences · = []) then
    .error "고객 안내 문구를 뒷받침할 공식 근거가 없습니다."
  else if output.any fun unit => groundingTexts.all (unit ∉ canonicalSentences nfc ·) then
    .error "고객 안내에 근거 없는 주장·행동·조건이 있습니다."
  else if ¬output.Nodup then .error "동일 근거 조치를 반복했습니다."
  else groundingTexts.forM (checkGroup nfc isWord output)

/-! ### What is accepted -/

/-- The message takes a sentence from the summary. -/
def Draws (message text : String) : Prop :=
  ∃ unit ∈ canonicalSentences nfc message, unit ∈ canonicalSentences nfc text

/-- All warnings of the summary are in the message, and what is taken from it is in its order. -/
structure Respects (message text : String) : Prop where
  warned : requiredSentences nfc isWord text ⊆ canonicalSentences nfc message
  ordered : ((canonicalSentences nfc message).filter (· ∈ canonicalSentences nfc text)).Pairwise
    fun u v => (canonicalSentences nfc text).idxOf u ≤ (canonicalSentences nfc text).idxOf v

structure Grounded (message : String) (texts : List String) : Prop where
  present : sentences message ≠ []
  approved : ∀ unit ∈ canonicalSentences nfc message, ∃ text ∈ texts,
    unit ∈ canonicalSentences nfc text
  nodup : (canonicalSentences nfc message).Nodup
  respected : ∀ text ∈ texts, Draws nfc message text → Respects nfc isWord message text

variable {nfc isWord} {message text : String} {texts : List String}

theorem checkGroup_eq_ok :
    checkGroup nfc isWord (canonicalSentences nfc message) text = .ok () ↔
      (Draws nfc message text → Respects nfc isWord message text) := by
  unfold checkGroup
  by_cases draws : Draws nfc message text
  · have shared : ¬(canonicalSentences nfc message).all (· ∉ canonicalSentences nfc text) = true := by
      obtain ⟨unit, mem, mem'⟩ := draws
      intro none
      have absent := List.all_eq_true.1 none unit mem
      simp [mem'] at absent
    simp only [if_neg shared, ite_error_eq_ok, not_not, List.pairwise_map, and_true]
    exact ⟨fun both _ => ⟨both.1, both.2⟩, fun all => ⟨(all draws).warned, (all draws).ordered⟩⟩
  · have none : (canonicalSentences nfc message).all (· ∉ canonicalSentences nfc text) = true := by
      refine List.all_eq_true.2 fun unit mem => ?_
      have absent : unit ∉ canonicalSentences nfc text := fun mem' => draws ⟨unit, mem, mem'⟩
      simpa using absent
    rw [if_pos none]
    exact ⟨fun _ drawn => absurd drawn draws, fun _ => rfl⟩

/-- A message is accepted if and only if it is grounded. -/
theorem validateGrounding_eq_ok :
    validateGrounding nfc isWord message texts = .ok () ↔ Grounded nfc isWord message texts := by
  unfold validateGrounding
  simp only [ite_error_eq_ok, not_not, forM_eq_ok, checkGroup_eq_ok]
  constructor
  · rintro ⟨filled, known, nodup, respected⟩
    refine ⟨fun empty => filled (.inl empty), ?_, nodup, respected⟩
    intro unit mem
    by_contra absent
    refine known (List.any_eq_true.2 ⟨unit, mem, List.all_eq_true.2 fun text there => ?_⟩)
    have none : unit ∉ canonicalSentences nfc text := fun inside => absent ⟨text, there, inside⟩
    simpa using none
  · rintro ⟨present, approved, nodup, respected⟩
    refine ⟨?_, ?_, nodup, respected⟩
    · rintro (empty | none)
      · exact present empty
      · obtain ⟨source, mem⟩ := List.exists_mem_of_ne_nil _ present
        obtain ⟨text, there, inside⟩ := approved _ (List.mem_map_of_mem mem)
        have blank : sentences text = [] := by simpa using List.all_eq_true.1 none text there
        rw [canonicalSentences, blank] at inside
        cases inside
    · intro unknown
      obtain ⟨unit, mem, absent⟩ := List.any_eq_true.1 unknown
      obtain ⟨text, there, inside⟩ := approved unit mem
      have none := List.all_eq_true.1 absent text there
      simp [inside] at none

/-- Members of a list in the order of their first places are taken from it in its order. -/
theorem sublist_of_idxOf {l g : List String} (mem : ∀ a ∈ l, a ∈ g)
    (ordered : l.Pairwise fun a b => g.idxOf a < g.idxOf b) : l.Sublist g := by
  induction g generalizing l with
  | nil =>
      cases l with
      | nil => exact .slnil
      | cons a _ => exact absurd (mem a List.mem_cons_self) List.not_mem_nil
  | cons x g ih =>
      have later {b : String} (other : x ≠ b) : (x :: g).idxOf b = g.idxOf b + 1 :=
        List.idxOf_cons_ne _ other
      have rest {l : List String} (mem : ∀ a ∈ l, a ∈ x :: g) (others : ∀ a ∈ l, x ≠ a)
          (ordered : l.Pairwise fun a b => (x :: g).idxOf a < (x :: g).idxOf b) : l.Sublist g := by
        refine ih (fun a inside => (List.mem_cons.1 (mem a inside)).resolve_left (others a inside).symm)
          (ordered.imp_of_mem ?_)
        intro a b insideA insideB less
        rw [later (others a insideA), later (others b insideB)] at less
        omega
      cases l with
      | nil => exact List.nil_sublist _
      | cons a l =>
          obtain ⟨first, further⟩ := List.pairwise_cons.1 ordered
          have others : ∀ b ∈ l, x ≠ b := by
            rintro b inside rfl
            have less := first x inside
            rw [List.idxOf_cons_self] at less
            omega
          have taken := rest (fun b inside => mem b (List.mem_cons_of_mem _ inside)) others further
          by_cases same : x = a
          · subst same
            exact taken.cons_cons x
          · refine (rest mem ?_ ordered).cons x
            intro b inside
            rcases List.mem_cons.1 inside with rfl | inside
            · exact same
            · exact others b inside

/-- What is taken from a summary stands in its order. -/
theorem Respects.sublist (h : Respects nfc isWord message text)
    (nodup : (canonicalSentences nfc message).Nodup) :
    ((canonicalSentences nfc message).filter (· ∈ canonicalSentences nfc text)).Sublist
      (canonicalSentences nfc text) := by
  have inside : ∀ unit ∈ (canonicalSentences nfc message).filter
      (· ∈ canonicalSentences nfc text), unit ∈ canonicalSentences nfc text := by
    intro unit mem
    simpa using List.of_mem_filter mem
  refine sublist_of_idxOf inside ?_
  refine (h.ordered.and (nodup.filter _)).imp_of_mem ?_
  intro u v memU memV both
  refine lt_of_le_of_ne both.1 fun same => both.2 ?_
  exact (List.idxOf_inj (inside u memU)).1 same

/-- A summary that is taken whole takes its own warnings and its own order. -/
theorem respects_self (nodup : (canonicalSentences nfc text).Nodup) :
    Respects nfc isWord text text where
  warned := List.map_subset _ (List.filter_subset_self _)
  ordered := by
    refine List.Pairwise.sublist List.filter_sublist ?_
    refine List.pairwise_iff_getElem.2 fun i j first last less => ?_
    rw [nodup.idxOf_getElem i first, nodup.idxOf_getElem j last]
    exact less.le

/-- A summary passes verbatim if and only if it has a sentence, repeats none in its canonical form,
and respects every other summary that it shares a sentence with. A message that passes is made of
sentences of the summaries, without repetition; with a sentence of a summary it has all its
warnings, and what it takes from a summary is in its order. -/
theorem grounding_guard (nfc : List Char → List Char) (isWord : Char → Bool) (texts : List String) :
    (∀ text ∈ texts, validateGrounding nfc isWord text texts = .ok () ↔
      sentences text ≠ [] ∧ (canonicalSentences nfc text).Nodup ∧
        ∀ other ∈ texts, other ≠ text → Draws nfc text other → Respects nfc isWord text other) ∧
    ∀ message, validateGrounding nfc isWord message texts = .ok () →
      (∀ source ∈ sentences message, ∃ text ∈ texts, ∃ approved ∈ sentences text,
        canonicalSentence nfc source = canonicalSentence nfc approved) ∧
      ((sentences message).map (canonicalSentence nfc)).Nodup ∧
      ∀ text ∈ texts, Draws nfc message text →
        requiredSentences nfc isWord text ⊆ canonicalSentences nfc message ∧
        ((canonicalSentences nfc message).filter (· ∈ canonicalSentences nfc text)).Sublist
          (canonicalSentences nfc text) := by
  constructor
  · intro text mem
    rw [validateGrounding_eq_ok]
    constructor
    · intro grounded
      exact ⟨grounded.present, grounded.nodup, fun other there _ => grounded.respected other there⟩
    · rintro ⟨present, nodup, respected⟩
      refine ⟨present, fun unit inside => ⟨text, mem, inside⟩, nodup, fun other there draws => ?_⟩
      by_cases own : other = text
      · rw [own]
        exact respects_self nodup
      · exact respected other there own draws
  · intro message passed
    have grounded := validateGrounding_eq_ok.1 passed
    refine ⟨?_, grounded.nodup, ?_⟩
    · intro source there
      obtain ⟨text, mem, inside⟩ := grounded.approved _ (List.mem_map_of_mem there)
      obtain ⟨approved, there', same⟩ := List.mem_map.1 inside
      exact ⟨text, mem, approved, there', same.symm⟩
    · intro text mem draws
      have respects := grounded.respected text mem draws
      exact ⟨respects.warned, respects.sublist grounded.nodup⟩

end

/-! ### Summaries that do not pass -/

namespace GuardSample

/-- On composed Hangul the normalization changes nothing. -/
def isWord (c : Char) : Bool := c.isAlphanum || c == '_' || decide ('가' ≤ c ∧ c ≤ '힣')

/-- A summary with one sentence twice. -/
def repeated : String := "필터를 확인하세요. 전원을 끄세요. 필터를 확인합니다."

/-- Two summaries with a sentence in common; the second has a warning too. -/
def short : String := "필터를 확인하세요."

def warned : String := "필터를 확인하세요. 감전에 주의하세요."

end GuardSample

/-- A summary that repeats a sentence is refused, and one that lacks the warning of another. -/
theorem verbatim_refused :
    validateGrounding id GuardSample.isWord GuardSample.repeated [GuardSample.repeated] ≠ .ok () ∧
    validateGrounding id GuardSample.isWord GuardSample.short
      [GuardSample.short, GuardSample.warned] ≠ .ok () := by
  decide +kernel

end WaterCare.Ai.GuidanceMessageGuard
