import SymbolTrace.Crash.DescriptorWriter
import SymbolTrace.Text.Utf8

/-!
# No byte is lost or written twice

The writer to a file descriptor goes through answers of the system until all bytes are taken or an
answer ends the attempt. How far it comes can be told from the answers without following the writer:
up to the first one that ends the attempt they grant a number of bytes (`granted`), and what is
taken is so much of the text from its beginning. Each call offers what is behind the bytes that the
answers before it have granted, so an interrupted call is made again as it was.

All proofs go by `transfer_induction`, in which an interrupted call is one that takes no byte.

## Main results

* `taken_transfer`, `status_transfer`: what is taken in the end, and how the attempt ends.
* `getElem?_offers_transfer`: every single call.
* `transfer_exact`: what this means for a text.
-/

namespace SymbolTrace.Crash

open Text

/-! ### Answers -/

namespace CallAnswer

/-- Does the answer end the attempt? -/
def isFinal : CallAnswer → Bool
  | took _ => false
  | interrupted => false
  | tookNothing => true
  | failed => true

/-- How many bytes a call with this answer takes. -/
def count : CallAnswer → Nat
  | took count => count
  | _ => 0

end CallAnswer

/-- How many bytes the answers grant in all, up to the first that ends the attempt. -/
def granted : List CallAnswer → Nat
  | [] => 0
  | answer :: answers => if answer.isFinal then 0 else answer.count + granted answers

/-- Nothing is granted behind a final answer. -/
theorem granted_cons_of_final {answer : CallAnswer} (hfinal : answer.isFinal = true)
    (answers : List CallAnswer) : granted (answer :: answers) = 0 := by
  rw [granted, if_pos hfinal]

/-- Each answer grants its bytes. -/
theorem granted_cons {answer : CallAnswer} (hfinal : answer.isFinal = false)
    (answers : List CallAnswer) :
    granted (answer :: answers) = answer.count + granted answers := by
  rw [granted, hfinal, if_neg Bool.false_ne_true]

/-- Answers that are not final grant their bytes one after the other. -/
theorem granted_append {front : List CallAnswer} (hfront : ∀ answer ∈ front, answer.isFinal = false)
    (back : List CallAnswer) : granted (front ++ back) = granted front + granted back := by
  induction front with
  | nil => exact (Nat.zero_add _).symm
  | cons answer front ih =>
      have hanswer := hfront answer List.mem_cons_self
      have hrest := ih fun other hother => hfront other (List.mem_cons_of_mem answer hother)
      rw [List.cons_append, granted_cons hanswer, granted_cons hanswer, hrest, Nat.add_assoc]

/-! ### The course of a transfer -/

/-- One call: it ends the attempt, or it takes as many bytes as the answer says, which may be none,
and leaves the rest to the next call. -/
theorem transfer_cons {bytes : List UInt8} (hbytes : bytes ≠ []) (answer : CallAnswer)
    (answers : List CallAnswer) :
    transfer bytes (answer :: answers) =
      if answer.isFinal then ⟨[bytes], [], .broken⟩
      else (transfer (bytes.drop answer.count) answers).after bytes (bytes.take answer.count) := by
  cases answer
  all_goals
    rw [transfer]
    · rfl
    · exact hbytes

/-- What holds at each end of a transfer, and in front of a call if it holds behind it, holds of
every transfer. -/
theorem transfer_induction {P : List UInt8 → List CallAnswer → Transfer → Prop}
    (complete : ∀ answers, P [] answers ⟨[], [], .complete⟩)
    (waiting : ∀ bytes, bytes ≠ [] → P bytes [] ⟨[], [], .waiting bytes⟩)
    (broken : ∀ bytes answer answers, bytes ≠ [] → answer.isFinal = true →
      P bytes (answer :: answers) ⟨[bytes], [], .broken⟩)
    (call : ∀ bytes answer answers rest, bytes ≠ [] → answer.isFinal = false →
      P (bytes.drop answer.count) answers rest →
      P bytes (answer :: answers) (rest.after bytes (bytes.take answer.count)))
    (bytes : List UInt8) (answers : List CallAnswer) :
    P bytes answers (transfer bytes answers) := by
  induction answers generalizing bytes with
  | nil =>
      by_cases hbytes : bytes = []
      · rw [hbytes, transfer]
        exact complete []
      · rw [transfer]
        · exact waiting bytes hbytes
        · exact hbytes
  | cons answer answers ih =>
      by_cases hbytes : bytes = []
      · rw [hbytes, transfer]
        exact complete (answer :: answers)
      rw [transfer_cons hbytes]
      split
      case isTrue hfinal => exact broken bytes answer answers hbytes hfinal
      case isFalse hfinal =>
        exact call bytes answer answers _ hbytes (Bool.eq_false_iff.2 hfinal) (ih _)

/-- The bytes taken are the first ones, as many as are granted. -/
theorem taken_transfer (bytes : List UInt8) (answers : List CallAnswer) :
    (transfer bytes answers).taken = bytes.take (granted answers) := by
  refine transfer_induction (P := fun bytes answers course =>
    course.taken = bytes.take (granted answers)) ?complete ?waiting ?broken ?call bytes answers
  case complete => exact fun answers => List.take_nil.symm
  case waiting => exact fun bytes _ => rfl
  case broken =>
    intro bytes answer answers _ hfinal
    rw [granted_cons_of_final hfinal, List.take_zero]
  case call =>
    intro bytes answer answers rest _ hfinal ih
    rw [granted_cons hfinal, Transfer.after, ih, List.take_add]

/-- How the attempt ends: all bytes were granted in time, an answer ended it, or it goes on. -/
theorem status_transfer (bytes : List UInt8) (answers : List CallAnswer) :
    (transfer bytes answers).status =
      if bytes.length ≤ granted answers then .complete
      else if answers.any CallAnswer.isFinal then .broken
      else .waiting (bytes.drop (granted answers)) := by
  refine transfer_induction (P := fun bytes answers course => course.status =
    if bytes.length ≤ granted answers then .complete
    else if answers.any CallAnswer.isFinal then .broken
    else .waiting (bytes.drop (granted answers))) ?complete ?waiting ?broken ?call bytes answers
  case complete => exact fun answers => (if_pos (Nat.zero_le _)).symm
  case waiting =>
    intro bytes hbytes
    have hlength := List.length_pos_iff.2 hbytes
    rw [granted, if_neg (by omega)]
    rfl
  case broken =>
    intro bytes answer answers hbytes hfinal
    have hlength := List.length_pos_iff.2 hbytes
    rw [granted_cons_of_final hfinal, if_neg (by omega), List.any_cons, hfinal]
    rfl
  case call =>
    intro bytes answer answers rest _ hfinal ih
    have hlength : (bytes.drop answer.count).length ≤ granted answers ↔
        bytes.length ≤ answer.count + granted answers := by
      rw [List.length_drop]
      omega
    simp only [Transfer.after, ih, granted_cons hfinal, hlength, List.any_cons, hfinal,
      Bool.false_or, List.drop_drop]

/-- The first call offers everything. -/
theorem firstOffer_iff {bytes offer : List UInt8} (hbytes : bytes ≠ []) :
    bytes = offer ↔ offer = bytes ∧ offer ≠ [] := by
  constructor
  · rintro rfl
    exact ⟨rfl, hbytes⟩
  · exact fun h => h.1.symm

/-- A call is made while bytes are left and no answer has ended the attempt, and it offers all the
bytes that are left. -/
theorem getElem?_offers_transfer (bytes : List UInt8) (answers : List CallAnswer) :
    ∀ i offer, (transfer bytes answers).offers[i]? = some offer ↔
      i < answers.length ∧ (∀ answer ∈ answers.take i, answer.isFinal = false) ∧
        offer = bytes.drop (granted (answers.take i)) ∧ offer ≠ [] := by
  refine transfer_induction (P := fun bytes answers course => ∀ i offer,
    course.offers[i]? = some offer ↔
      i < answers.length ∧ (∀ answer ∈ answers.take i, answer.isFinal = false) ∧
        offer = bytes.drop (granted (answers.take i)) ∧ offer ≠ [])
    ?complete ?waiting ?broken ?call bytes answers
  case complete =>
    intro answers i offer
    simp only [List.getElem?_nil, reduceCtorEq, List.drop_nil, false_iff]
    exact fun h => h.2.2.2 h.2.2.1
  case waiting => simp
  case broken =>
    intro bytes answer answers hbytes hfinal i offer
    cases i with
    | zero => simp [granted, firstOffer_iff hbytes]
    | succ i => simp [hfinal]
  case call =>
    intro bytes answer answers rest hbytes hfinal ih i offer
    cases i with
    | zero => simp [Transfer.after, granted, firstOffer_iff hbytes]
    | succ i => simp [Transfer.after, ih, granted_cons hfinal, hfinal, List.drop_drop]

/-- What is taken is what the calls take, each of what it is offered. -/
theorem taken_transfer_eq_flatMap (bytes : List UInt8) (answers : List CallAnswer) :
    (transfer bytes answers).taken =
      ((transfer bytes answers).offers.zip answers).flatMap fun call =>
        call.1.take call.2.count := by
  refine transfer_induction (P := fun _ answers course => course.taken =
    (course.offers.zip answers).flatMap fun call => call.1.take call.2.count)
    ?complete ?waiting ?broken ?call bytes answers
  case complete => exact fun _ => rfl
  case waiting => exact fun _ _ => rfl
  case broken =>
    intro bytes answer answers _ hfinal
    cases answer with
    | took | interrupted => cases hfinal
    | tookNothing | failed => rfl
  case call =>
    intro bytes answer answers rest _ _ ih
    rw [Transfer.after, List.zip_cons_cons, List.flatMap_cons, ih]

/-- The writer is done exactly if all bytes were granted. -/
theorem status_transfer_eq_complete_iff {bytes : List UInt8} {answers : List CallAnswer} :
    (transfer bytes answers).status = .complete ↔ bytes.length ≤ granted answers := by
  rw [status_transfer]
  split
  case isTrue hgranted => exact iff_of_true rfl hgranted
  case isFalse hgranted =>
    refine iff_of_false ?_ hgranted
    split
    all_goals exact nofun

/-- All bytes are taken exactly if all were granted. -/
theorem taken_transfer_eq_iff {bytes : List UInt8} {answers : List CallAnswer} :
    (transfer bytes answers).taken = bytes ↔ bytes.length ≤ granted answers := by
  rw [taken_transfer]
  constructor
  · intro h
    have hlength := congrArg List.length h
    rw [List.length_take] at hlength
    omega
  · exact List.take_of_length_le

/-- The attempt has failed exactly if an answer ended it before all bytes were granted. -/
theorem status_transfer_eq_broken_iff {bytes : List UInt8} {answers : List CallAnswer} :
    (transfer bytes answers).status = .broken ↔
      granted answers < bytes.length ∧ ∃ answer ∈ answers, answer.isFinal = true := by
  rw [status_transfer, ← List.any_eq_true]
  split
  case isTrue hgranted => exact iff_of_false nofun fun h => by omega
  case isFalse hgranted =>
    split
    case isTrue hfinal => exact iff_of_true rfl ⟨by omega, hfinal⟩
    case isFalse hfinal => exact iff_of_false nofun fun h => hfinal h.2

/-- An interrupted call is made again with the same bytes, as soon as there is another answer. -/
theorem offers_transfer_of_interrupted {bytes offer : List UInt8} {answers : List CallAnswer}
    {i : Nat} (hoffer : (transfer bytes answers).offers[i]? = some offer)
    (hanswer : answers[i]? = some .interrupted) :
    (transfer bytes answers).offers[i + 1]? = some offer ∨
      answers.length = i + 1 ∧ (transfer bytes answers).status = .waiting offer := by
  obtain ⟨hlt, hearlier, hrest, hne⟩ := (getElem?_offers_transfer bytes answers i offer).1 hoffer
  have htake : answers.take (i + 1) = answers.take i ++ [.interrupted] := by
    rw [List.take_add_one, hanswer]
    rfl
  have hearlier' : ∀ answer ∈ answers.take (i + 1), answer.isFinal = false := by
    rw [htake]
    intro answer hmem
    rcases List.mem_append.1 hmem with hmem | hmem
    · exact hearlier answer hmem
    · rw [List.mem_singleton.1 hmem]
      rfl
  have hgranted : granted (answers.take (i + 1)) = granted (answers.take i) := by
    rw [htake, granted_append hearlier]
    rfl
  rcases Nat.lt_or_ge (i + 1) answers.length with hmore | hlast
  · left
    rw [getElem?_offers_transfer, hgranted]
    exact ⟨hmore, hearlier', hrest, hne⟩
  · right
    have hlength : answers.length = i + 1 := by omega
    rw [← hlength, List.take_length] at hearlier' hgranted
    have hleft : ¬ bytes.length ≤ granted answers := by
      intro hle
      rw [← hgranted, List.drop_eq_nil_of_le hle] at hrest
      exact hne hrest
    have hany : answers.any CallAnswer.isFinal = false :=
      List.any_eq_false.2 fun answer hmem => by rw [hearlier' answer hmem]; exact Bool.false_ne_true
    rw [status_transfer, if_neg hleft, hany, if_neg Bool.false_ne_true, hgranted, ← hrest]
    exact ⟨hlength, rfl⟩

/-! ### Texts -/

/-- **No byte is lost or written twice.** The writer reports success exactly if all bytes of the
text were taken, which is so if the system grants as many before it takes nothing or fails; what is
taken is what the calls take, in order. If the writer reports a failure, only a first part of the
text was taken. Each call offers all that is left behind the calls before it, and an interrupted one
is made again with the same bytes. -/
theorem transfer_exact (text : String) (answers : List CallAnswer) :
    let bytes := utf8 text.toList
    let course := transfer bytes answers
    (course.status = .complete ↔ course.taken = bytes) ∧
    (course.status = .complete ↔ bytes.length ≤ granted answers) ∧
    (course.status = .broken ↔
      granted answers < bytes.length ∧ ∃ answer ∈ answers, answer.isFinal = true) ∧
    (course.status = .broken → course.taken <+: bytes ∧ course.taken ≠ bytes) ∧
    (course.taken = (course.offers.zip answers).flatMap fun call => call.1.take call.2.count) ∧
    (∀ i offer, course.offers[i]? = some offer ↔
      i < answers.length ∧ (∀ answer ∈ answers.take i, answer.isFinal = false) ∧
        offer = bytes.drop (granted (answers.take i)) ∧ offer ≠ []) ∧
    ∀ i offer, course.offers[i]? = some offer → answers[i]? = some .interrupted →
      course.offers[i + 1]? = some offer ∨
        answers.length = i + 1 ∧ course.status = .waiting offer := by
  intro bytes course
  refine ⟨status_transfer_eq_complete_iff.trans taken_transfer_eq_iff.symm,
    status_transfer_eq_complete_iff, status_transfer_eq_broken_iff, ?part,
    taken_transfer_eq_flatMap bytes answers, getElem?_offers_transfer bytes answers,
    fun i offer => offers_transfer_of_interrupted⟩
  case part =>
    intro hbroken
    have hless := (status_transfer_eq_broken_iff.1 hbroken).1
    refine ⟨?_, fun htaken => ?_⟩
    · rw [taken_transfer]
      exact List.take_prefix _ bytes
    · have hle := taken_transfer_eq_iff.1 htaken
      omega

/-- A failure behind a short and an interrupted call. -/
theorem transfer_exact_cutShort :
    let answers : List CallAnswer := [.took 2, .interrupted, .took 1, .failed, .took 2]
    let course := transfer (utf8 "frame".toList) answers
    course.status = .broken ∧ course.taken <+: utf8 "frame".toList ∧
      course.taken ≠ utf8 "frame".toList ∧ course.taken = utf8 "fra".toList ∧
      course.offers[1]? = some (utf8 "ame".toList) ∧
      course.offers[2]? = some (utf8 "ame".toList) := by
  intro answers course
  obtain ⟨-, -, hbroken, hpart, -, hoffers, hagain⟩ := transfer_exact "frame" answers
  have hstatus : course.status = .broken :=
    hbroken.2 ⟨by decide, .failed, by simp [answers], rfl⟩
  have hoffer : course.offers[1]? = some (utf8 "ame".toList) :=
    (hoffers 1 _).2 (by decide)
  have hretry := (hagain 1 _ hoffer rfl).resolve_right (by simp [answers])
  have htaken : course.taken = utf8 "fra".toList := by
    rw [taken_transfer]
    rfl
  exact ⟨hstatus, (hpart hstatus).1, (hpart hstatus).2, htaken, hoffer, hretry⟩

end SymbolTrace.Crash
