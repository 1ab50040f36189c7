import Causeway.ErrorSlot
import Causeway.Proofs.Decoding

/-!
# Causeway.Proofs.Records

What a failure is after it was written to a record and read back.

* `Failure.ownCodes`          — the codes that the bridge's own kinds travel as.
* `Record.toFailure_ofFailure` — a record keeps code and message, and nothing else.
* `failure_survives_record_iff` — a failure comes back as it was, unless a callee chose one of those codes.

A callee may choose any code. The kind is not written down, so a callee's failure under one of the bridge's
codes is read as the bridge's own kind, and under two of them as a fatal one.
-/

namespace Causeway

namespace Failure

def ownCodes : List Int := [-1, -2, 100, 101, 102, 200, 201]

theorem mem_ownCodes {code : Int} : code ∈ ownCodes ↔
    code = -1 ∨ code = -2 ∨ code = 100 ∨ code = 101 ∨ code = 102 ∨ code = 200 ∨ code = 201 := by
  simp [ownCodes]

theorem ofCode_of_not_own {code : Int} (h : code ∉ ownCodes) (m : String) :
    ofCode code m = .callee code m := by
  simp only [mem_ownCodes, not_or] at h
  simp only [ofCode, h, if_false]

/-- Under one of its own codes the bridge reads one of its own kinds. -/
theorem ofCode_of_own {code : Int} (h : code ∈ ownCodes) (m m' : String) :
    ofCode code m ≠ .callee code m' := by
  rcases mem_ownCodes.mp h with rfl | rfl | rfl | rfl | rfl | rfl | rfl <;> simp [ofCode]

theorem code_ofCode (code : Int) (m : String) : (ofCode code m).code = code := by
  by_cases h : code ∈ ownCodes
  · rcases mem_ownCodes.mp h with rfl | rfl | rfl | rfl | rfl | rfl | rfl <;> rfl
  · rw [ofCode_of_not_own h]
    rfl

theorem isFatal_ofCode (code : Int) (m : String) :
    (ofCode code m).isFatal = true ↔ code = 200 ∨ code = 201 := by
  by_cases h : code ∈ ownCodes
  · rcases mem_ownCodes.mp h with rfl | rfl | rfl | rfl | rfl | rfl | rfl <;> simp [ofCode, isFatal]
  · rw [ofCode_of_not_own h]
    simp only [mem_ownCodes, not_or] at h
    simp [isFatal, h]

end Failure

theorem Record.describe_ofFailure (f : Failure) : (Record.ofFailure f).describe = f.message := by
  simp only [Record.ofFailure, Record.describe, OwnedText.ofText, OwnedText.bytes, OwnedText.toText,
    Option.getD_some, Utf8.lossy_utf8]

theorem Record.toFailure_ofFailure (f : Failure) :
    (Record.ofFailure f).toFailure = Failure.ofCode f.code f.message := by
  rw [Record.toFailure, Record.describe_ofFailure]
  rfl

/-- A failure comes back from a record as it was exactly when it is not a callee's under one of the bridge's own
codes. The code always comes back, and what comes back is fatal exactly under the two codes of the fatal
kinds, whoever wrote them. -/
theorem failure_survives_record_iff (f : Failure) :
    ((Record.ofFailure f).toFailure = f ↔ ∀ code m, f = .callee code m → code ∉ Failure.ownCodes) ∧
      (Record.ofFailure f).toFailure.code = f.code ∧
      ((Record.ofFailure f).toFailure.isFatal = true ↔
        f.isFatal = true ∨ (∃ m, f = .callee 200 m) ∨ ∃ m, f = .callee 201 m) := by
  rw [Record.toFailure_ofFailure]
  refine ⟨?_, Failure.code_ofCode _ _, ?_⟩
  · cases f with
    | callee code m =>
      constructor
      · rintro h _ _ ⟨⟩ hown
        exact Failure.ofCode_of_own hown m m h
      · intro h
        exact Failure.ofCode_of_not_own (h code m rfl) m
    | _ => simp [Failure.code, Failure.message, Failure.ofCode]
  · rw [Failure.isFatal_ofCode]
    cases f <;> simp [Failure.code, Failure.isFatal]

/-- A foreign callee may fail with code 200. That is not fatal, and its record reads as a broken contract,
which is. -/
theorem callee_failure_comes_back_fatal :
    Failure.ofCallee 200 "quota exceeded" = .callee 200 "quota exceeded" ∧
      (Failure.ofCallee 200 "quota exceeded").isFatal = false ∧
      (Record.ofFailure (Failure.ofCallee 200 "quota exceeded")).toFailure = .contract "quota exceeded" ∧
      (Record.ofFailure (Failure.ofCallee 200 "quota exceeded")).toFailure.isFatal = true := by
  rw [Record.toFailure_ofFailure]
  decide

end Causeway
