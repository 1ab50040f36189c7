import Mathlib.Data.Finset.Card
import Causeway.Contracts.Script

/-!
# Causeway.Proofs.Agreement

What a table of contracts holds after a history of registrations.

* `Contracts.offer`       — a registration whose refusal leaves the table in use.
* `Contracts.get?_offers` — the first signature of each symbol stays.
* `Contracts.Agree`       — signatures of which no two dispute a symbol.
* `Contracts.registerAll_eq_ok_iff` — exactly these can be registered together, and their order leaves no trace.
* `tables_keep_first_signature` — both, with what verification makes of the table.
-/

namespace Causeway
namespace Contracts

/-- The table after an attempt to register a signature. -/
def offer (t : Contracts) (s : Signature) : Contracts :=
  match t.register s with
  | .ok u => u
  | .error _ => t

/-- The table after a history of attempts. -/
def offers (ss : List Signature) : Contracts := ss.foldl offer empty

def symbols (t : Contracts) : List String := t.entries.map Prod.fst

/-! ## One registration -/

variable {t u : Contracts} {s : Signature} {symbol : String}

theorem get?_eq_none_iff : t.get? symbol = none ↔ symbol ∉ t.symbols := by
  simp only [get?, symbols, List.lookup_eq_none_iff, List.mem_map, not_exists, not_and, bne_iff_ne, ne_eq]
  exact ⟨fun h p hp hfst => h p hp hfst.symm, fun h p hp hfst => h p hp hfst.symm⟩

theorem get?_cons (known : String) (fp : UInt64) (es : List (String × UInt64)) (symbol : String) :
    get? ⟨(known, fp) :: es⟩ symbol = if known = symbol then some fp else get? ⟨es⟩ symbol := by
  by_cases h : known = symbol
  · subst h
    simp [get?]
  · have hbeq : (symbol == known) = false := beq_false_of_ne (Ne.symm h)
    simp [get?, List.lookup_cons, hbeq, h]

/-- What a registration can do: enter a new symbol, find the entry there, or be refused. -/
theorem register_cases (t : Contracts) (s : Signature) :
    (t.get? s.symbol = none ∧ t.register s = .ok ⟨(s.symbol, s.fingerprint) :: t.entries⟩) ∨
      (t.get? s.symbol = some s.fingerprint ∧ t.register s = .ok t) ∨
      ∃ fp, t.get? s.symbol = some fp ∧ fp ≠ s.fingerprint ∧ t.register s = .error (.conflict s.symbol) := by
  unfold register enter
  cases hknown : t.get? s.symbol with
  | none => exact .inl ⟨rfl, rfl⟩
  | some fp =>
    by_cases hfp : fp = s.fingerprint
    · exact .inr (.inl ⟨by rw [hfp], by simp only [hfp, ↓reduceIte]⟩)
    · exact .inr (.inr ⟨fp, rfl, hfp, by simp only [hfp, ↓reduceIte]⟩)

theorem register_refused_iff :
    (∃ e, t.register s = .error e) ↔ ∃ fp, t.get? s.symbol = some fp ∧ fp ≠ s.fingerprint := by
  rcases register_cases t s with ⟨hget, hrun⟩ | ⟨hget, hrun⟩ | ⟨fp, hget, hfp, hrun⟩
  · simp [hget, hrun]
  · simp [hget, hrun]
  · simp [hget, hrun, hfp]

theorem offer_of_ok (h : t.register s = .ok u) : t.offer s = u := by simp only [offer, h]

theorem offer_of_error {e : Refusal} (h : t.register s = .error e) : t.offer s = t := by simp only [offer, h]

theorem register_of_not_refused (h : ¬ ∃ e, t.register s = .error e) :
    t.register s = .ok (t.offer s) ∧ (t.offer s).get? s.symbol = some s.fingerprint := by
  rcases register_cases t s with ⟨_, hrun⟩ | ⟨hget, hrun⟩ | ⟨_, _, _, hrun⟩
  · rw [offer_of_ok hrun]
    exact ⟨hrun, by rw [get?_cons, if_pos rfl]⟩
  · rw [offer_of_ok hrun]
    exact ⟨hrun, hget⟩
  · exact absurd ⟨_, hrun⟩ h

/-- An attempt adds an entry for a symbol that has none. -/
theorem offer_cases (t : Contracts) (s : Signature) :
    (t.get? s.symbol = none ∧ t.offer s = ⟨(s.symbol, s.fingerprint) :: t.entries⟩) ∨
      (∃ fp, t.get? s.symbol = some fp) ∧ t.offer s = t := by
  rcases register_cases t s with ⟨hget, hrun⟩ | ⟨hget, hrun⟩ | ⟨fp, hget, _, hrun⟩
  · exact .inl ⟨hget, offer_of_ok hrun⟩
  · exact .inr ⟨⟨_, hget⟩, offer_of_ok hrun⟩
  · exact .inr ⟨⟨fp, hget⟩, offer_of_error hrun⟩

theorem get?_offer (t : Contracts) (s : Signature) (symbol : String) :
    (t.offer s).get? symbol = (t.get? symbol).or (if s.symbol = symbol then some s.fingerprint else none) := by
  rcases offer_cases t s with ⟨hget, hoffer⟩ | ⟨⟨fp, hget⟩, hoffer⟩
  · rw [hoffer, get?_cons]
    by_cases hsymbol : s.symbol = symbol
    · rw [← hsymbol, hget]
      simp
    · simp only [hsymbol, ↓reduceIte, Option.or_none]
  · rw [hoffer]
    by_cases hsymbol : s.symbol = symbol
    · rw [← hsymbol, hget]
      simp
    · simp only [hsymbol, ↓reduceIte, Option.or_none]

theorem symbols_offer (t : Contracts) (s : Signature) : (t.offer s).symbols = t.symbols.insert s.symbol := by
  rcases offer_cases t s with ⟨hget, hoffer⟩ | ⟨⟨fp, hget⟩, hoffer⟩
  · rw [hoffer, List.insert_of_not_mem (get?_eq_none_iff.mp hget)]
    rfl
  · have hknown : s.symbol ∈ t.symbols := by
      by_contra hnot
      rw [get?_eq_none_iff.mpr hnot] at hget
      cases hget
    rw [hoffer, List.insert_of_mem hknown]

/-! ## A history of registrations -/

theorem get?_foldl_offer (ss : List Signature) (t : Contracts) (symbol : String) :
    (ss.foldl offer t).get? symbol =
      (t.get? symbol).or ((ss.find? (·.symbol = symbol)).map Signature.fingerprint) := by
  induction ss generalizing t with
  | nil => simp
  | cons s ss ih =>
    rw [List.foldl_cons, ih, get?_offer, Option.or_assoc]
    by_cases hsymbol : s.symbol = symbol <;> simp [hsymbol]

theorem get?_offers (ss : List Signature) (symbol : String) :
    (offers ss).get? symbol = (ss.find? (·.symbol = symbol)).map Signature.fingerprint := by
  rw [offers, get?_foldl_offer]
  rfl

theorem symbols_foldl_offer (ss : List Signature) {t : Contracts} (h : t.symbols.Nodup) :
    (ss.foldl offer t).symbols.Nodup ∧
      ∀ symbol, symbol ∈ (ss.foldl offer t).symbols ↔ symbol ∈ t.symbols ∨ symbol ∈ ss.map Signature.symbol := by
  induction ss generalizing t with
  | nil => simp [h]
  | cons s ss ih =>
    have hnext : (t.offer s).symbols.Nodup := by
      rw [symbols_offer]
      exact h.insert
    refine ⟨(ih hnext).1, fun symbol => ?_⟩
    rw [List.foldl_cons, (ih hnext).2, symbols_offer, List.mem_insert_iff, List.map_cons, List.mem_cons]
    tauto

theorem nodup_symbols_offers (ss : List Signature) : (offers ss).symbols.Nodup :=
  (symbols_foldl_offer ss (t := empty) List.nodup_nil).1

theorem size_offers (ss : List Signature) : (offers ss).size = (ss.map Signature.symbol).toFinset.card := by
  have hsymbols : (offers ss).symbols.toFinset = (ss.map Signature.symbol).toFinset := by
    ext symbol
    rw [List.mem_toFinset, List.mem_toFinset, offers, (symbols_foldl_offer ss (t := empty) List.nodup_nil).2]
    simp [symbols, empty]
  rw [← hsymbols, List.toFinset_card_of_nodup (nodup_symbols_offers ss), symbols, List.length_map]
  rfl

/-! ## Verification -/

theorem verifyPeer_eq_ok_iff {fp : UInt64} : t.verifyPeer symbol fp = .ok () ↔ t.get? symbol = some fp := by
  unfold verifyPeer
  cases t.get? symbol with
  | none => simp
  | some known => by_cases hfp : known = fp <;> simp [hfp]

theorem Refusal.failure_eq_contract (e : Refusal) : ∃ m, e.failure = .contract m := by
  cases e <;> exact ⟨_, rfl⟩

/-! ## Signatures that can be registered together -/

/-- No two signatures have one symbol and different fingerprints. -/
def Agree (ss : List Signature) : Prop :=
  ∀ s ∈ ss, ∀ s' ∈ ss, s.symbol = s'.symbol → s.fingerprint = s'.fingerprint

theorem Agree.of_subset {ss ss' : List Signature} (h : Agree ss) (hsub : ∀ s ∈ ss', s ∈ ss) : Agree ss' :=
  fun s hs s' hs' => h s (hsub s hs) s' (hsub s' hs')

theorem get?_foldl_of_some {fp : UInt64} (h : t.get? symbol = some fp) (ss : List Signature) :
    (ss.foldl offer t).get? symbol = some fp := by
  rw [get?_foldl_offer, h, Option.some_or]

/-- Nothing is refused exactly when the table of all attempts verifies every signature: a refused one would find
there the fingerprint it was refused for. -/
theorem registerAll_eq_ok_iff_verified (ss : List Signature) (t u : Contracts) :
    t.registerAll ss = .ok u ↔
      u = ss.foldl offer t ∧ ∀ s ∈ ss, (ss.foldl offer t).get? s.symbol = some s.fingerprint := by
  induction ss generalizing t with
  | nil => exact ⟨fun h => ⟨(Except.ok.inj h).symm, by simp⟩, fun h => by rw [h.1]; rfl⟩
  | cons s ss ih =>
    have hrun : t.registerAll (s :: ss) = (t.register s >>= fun t' => t'.registerAll ss) := List.foldlM_cons
    rw [hrun, List.foldl_cons]
    by_cases hrefused : ∃ e, t.register s = .error e
    · obtain ⟨e, he⟩ := hrefused
      obtain ⟨fp, hget, hfp⟩ := register_refused_iff.mp ⟨e, he⟩
      have hkept : (ss.foldl offer (t.offer s)).get? s.symbol = some fp :=
        get?_foldl_of_some (by rw [offer_of_error he, hget]) ss
      rw [he]
      constructor
      · intro h
        cases h
      · intro h
        have hverified := h.2 s List.mem_cons_self
        rw [hkept] at hverified
        exact absurd (Option.some.inj hverified) hfp
    · obtain ⟨hregistered, hentered⟩ := register_of_not_refused hrefused
      rw [hregistered]
      refine (ih (t.offer s)).trans ⟨fun h => ⟨h.1, ?_⟩, fun h => ⟨h.1, fun s' hs' => ?_⟩⟩
      · intro s' hs'
        rcases List.mem_cons.mp hs' with rfl | hs'
        · exact get?_foldl_of_some hentered ss
        · exact h.2 s' hs'
      · exact h.2 s' (List.mem_cons_of_mem s hs')

theorem get?_of_agree {ss : List Signature} (h : Agree ss) (hs : s ∈ ss) :
    (offers ss).get? s.symbol = some s.fingerprint := by
  rw [get?_offers]
  cases hfind : ss.find? (·.symbol = s.symbol) with
  | none =>
    have hother := List.find?_eq_none.mp hfind s hs
    simp at hother
  | some s' =>
    have hsymbol : s'.symbol = s.symbol := by simpa using List.find?_some hfind
    rw [Option.map_some, h s' (List.mem_of_find?_eq_some hfind) s hs hsymbol]

theorem registerAll_eq_ok_iff {ss : List Signature} :
    empty.registerAll ss = .ok u ↔ Agree ss ∧ u = offers ss := by
  rw [registerAll_eq_ok_iff_verified]
  constructor
  · rintro ⟨rfl, hverified⟩
    refine ⟨fun s hs s' hs' hsymbol => ?_, rfl⟩
    have hsecond := hverified s' hs'
    rw [← hsymbol, hverified s hs] at hsecond
    exact Option.some.inj hsecond
  · rintro ⟨hagree, rfl⟩
    exact ⟨rfl, fun s hs => get?_of_agree hagree hs⟩

/-! ## Tables that are equal -/

theorem get?_of_mem {fp : UInt64} (h : t.symbols.Nodup) (hmem : (symbol, fp) ∈ t.entries) :
    t.get? symbol = some fp := by
  obtain ⟨es⟩ := t
  induction es with
  | nil => cases hmem
  | cons entry es ih =>
    obtain ⟨known, known_fp⟩ := entry
    have hnodup : known ∉ es.map Prod.fst ∧ (es.map Prod.fst).Nodup := List.nodup_cons.mp h
    rw [get?_cons]
    rcases List.mem_cons.mp hmem with heq | htail
    · cases heq
      simp only [↓reduceIte]
    · have hdistinct : known ≠ symbol := by
        rintro rfl
        exact hnodup.1 (List.mem_map_of_mem (f := Prod.fst) htail)
      simp only [hdistinct, ↓reduceIte]
      exact ih hnodup.2 htail

/-- Tables made of the same signatures are equal: their sizes are, and every entry is the fingerprint of one. -/
theorem offers_beq {ss ss' : List Signature} (hagree : Agree ss) (hsame : ∀ s, s ∈ ss ↔ s ∈ ss') :
    (offers ss == offers ss') = true := by
  have hagree' : Agree ss' := hagree.of_subset fun s hs => (hsame s).mpr hs
  have hsize : (offers ss).size = (offers ss').size := by
    rw [size_offers, size_offers]
    congr 1
    ext symbol
    simp [hsame]
  have hentries : ∀ e ∈ (offers ss).entries, (offers ss').get? e.1 = some e.2 := by
    rintro ⟨symbol, fp⟩ hmem
    have hget := get?_of_mem (nodup_symbols_offers ss) hmem
    rw [get?_offers, Option.map_eq_some_iff] at hget
    obtain ⟨s, hfind, rfl⟩ := hget
    have hsymbol : s.symbol = symbol := by simpa using List.find?_some hfind
    rw [← hsymbol]
    exact get?_of_agree hagree' ((hsame s).mp (List.mem_of_find?_eq_some hfind))
  show (offers ss).same (offers ss') = true
  simpa [same, hsize] using hentries

/-- A script's registration is an attempt on the table it names, whose refusal leaves both tables in use. -/
theorem Tables.step_register (ts : Tables) (useSecond : Bool) (s : Signature) :
    (ts.step useSecond (.register s)).1 = ts.set useSecond ((ts.get useSecond).offer s) := by
  cases hrun : (ts.get useSecond).register s with
  | ok t => simp only [step, hrun, offer_of_ok hrun]
  | error e =>
    simp only [step, hrun, offer_of_error hrun]
    cases useSecond <;> rfl

end Contracts

open Contracts in
/-- A table that was built by any history of attempts to register holds the first signature of each symbol. An attempt
is refused exactly when its symbol is there under another fingerprint, and leaves no trace. Verification succeeds
exactly on the fingerprint that is held. Where the signatures of a list can be registered in one order without a
refusal, they can in every other, with repetitions too, and the tables are equal. -/
theorem tables_keep_first_signature (ss : List Signature) :
    (∀ (ts : Tables) (useSecond : Bool) (s : Signature),
        (ts.step useSecond (.register s)).1 = ts.set useSecond ((ts.get useSecond).offer s)) ∧
      (∀ symbol, (offers ss).get? symbol = (ss.find? (·.symbol = symbol)).map Signature.fingerprint) ∧
      (∀ s, (∃ e, (offers ss).register s = .error e) ↔
        ∃ fp, (offers ss).get? s.symbol = some fp ∧ fp ≠ s.fingerprint) ∧
      (∀ s e, (offers ss).register s = .error e →
        (∃ m, e.failure = .contract m) ∧ offers (ss ++ [s]) = offers ss) ∧
      (offers ss).size = (ss.map Signature.symbol).toFinset.card ∧
      (∀ s, (offers ss).verify s = .ok () ↔ (offers ss).get? s.symbol = some s.fingerprint) ∧
      (∀ symbol fp, (offers ss).verifyPeer symbol fp = .ok () ↔ (offers ss).get? symbol = some fp) ∧
      ((∃ order, order.Perm ss ∧ ∃ t, empty.registerAll order = .ok t) →
        ∀ qs qs', (∀ s, s ∈ qs ↔ s ∈ ss) → (∀ s, s ∈ qs' ↔ s ∈ ss) →
          ∃ t t', empty.registerAll qs = .ok t ∧ empty.registerAll qs' = .ok t' ∧ (t == t') = true) := by
  refine ⟨Tables.step_register, get?_offers ss, fun _ => register_refused_iff, ?_, size_offers ss,
    fun _ => verifyPeer_eq_ok_iff, fun _ _ => verifyPeer_eq_ok_iff, ?_⟩
  · intro s e he
    refine ⟨e.failure_eq_contract, ?_⟩
    rw [offers, List.foldl_append]
    exact offer_of_error he
  · rintro ⟨order, hperm, t, ht⟩ qs qs' hqs hqs'
    have horder : Agree order := (registerAll_eq_ok_iff.mp ht).1
    have hagree : Agree qs := horder.of_subset fun s hs => hperm.mem_iff.mpr ((hqs s).mp hs)
    have hagree' : Agree qs' := horder.of_subset fun s hs => hperm.mem_iff.mpr ((hqs' s).mp hs)
    exact ⟨offers qs, offers qs', registerAll_eq_ok_iff.mpr ⟨hagree, rfl⟩, registerAll_eq_ok_iff.mpr ⟨hagree', rfl⟩,
      offers_beq hagree fun s => (hqs s).trans (hqs' s).symm⟩

namespace Contracts

/-- A function of the namespace `b` within `a`. -/
def tapNested : Signature := { namespacePath := "a::b", name := "tap", callee := .host }

/-- A function of a namespace whose name has a dollar sign where the other has colons. -/
def tapFlat : Signature := { namespacePath := "a$b", name := "tap", callee := .host }

/-- A function of another name. -/
def drain : Signature := { namespacePath := "a::b", name := "drain", callee := .foreign }

end Contracts

open Contracts in
theorem tables_keep_first_signature_of_clash :
    (tapNested.symbol = tapFlat.symbol ∧ tapNested.fingerprint ≠ tapFlat.fingerprint) ∧
      (∃ e m, (offers [tapNested]).register tapFlat = .error e ∧ e.failure = .contract m) ∧
      offers [tapNested, tapFlat] = offers [tapNested] ∧
      ∃ t t', empty.registerAll [drain, tapNested, drain] = .ok t ∧
        empty.registerAll [tapNested, drain] = .ok t' ∧ (t == t') = true := by
  have hsymbol : tapNested.symbol = tapFlat.symbol := by decide
  have hfp : tapNested.fingerprint ≠ tapFlat.fingerprint := by decide +kernel
  obtain ⟨-, hget, hrefused, hleft, -⟩ := tables_keep_first_signature [tapNested]
  have hheld : (offers [tapNested]).get? tapFlat.symbol = some tapNested.fingerprint := by
    rw [hget, ← hsymbol]
    simp
  obtain ⟨e, he⟩ := (hrefused tapFlat).mpr ⟨_, hheld, hfp⟩
  obtain ⟨⟨m, hm⟩, hsame⟩ := hleft tapFlat e he
  obtain ⟨-, -, -, -, -, -, -, htables⟩ := tables_keep_first_signature [tapNested, drain]
  have hregisters : ∃ t, empty.registerAll [tapNested, drain] = .ok t := by
    have hdistinct : tapNested.symbol ≠ drain.symbol := by decide
    refine ⟨_, registerAll_eq_ok_iff.mpr ⟨?_, rfl⟩⟩
    simp [Agree, hdistinct, hdistinct.symm]
  refine ⟨⟨hsymbol, hfp⟩, ⟨e, m, he, hm⟩, hsame, htables ⟨_, .refl _, hregisters⟩ _ _ (fun s => ?_) fun s => Iff.rfl⟩
  simp only [List.mem_cons, List.not_mem_nil, or_false]
  constructor
  · rintro (h | h | h)
    exacts [.inr h, .inl h, .inr h]
  · rintro (h | h)
    exacts [.inr (.inl h), .inl h]

end Causeway
