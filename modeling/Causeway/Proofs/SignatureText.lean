import Causeway.Proofs.Decoding
import Causeway.Proofs.Reading
import Causeway.Signature
import Mathlib.Data.Set.Function

/-!
# Causeway.Proofs.SignatureText

The text of a signature says everything about it.

* `Kind.word`, `Kind.rest` — a kind's text is a word and what comes after it; the word tells the sort of kind.
* `Kind.readable`          — a kind is told by its text, callbacks of callbacks included.
* `Signature.Named`        — the names in a signature are identifiers, and its namespace is a path of them.
* `signature_text_identifies` — equal texts are texts of equal signatures.
-/

namespace Causeway

/-! ## Digits -/

namespace Hex

theorem digit_injective {m n : Nat} (hm : m < 16) (hn : n < 16) (h : digit m = digit n) : m = n := by
  have hdigit : ∀ k < 16, digit? (digit k) = some k := by decide
  rw [← Option.some_inj, ← hdigit m hm, ← hdigit n hn, h]

theorem length_fixed (width n : Nat) : (fixed width n).length = width := by
  induction width generalizing n with
  | zero => rfl
  | succ width ih => simp [fixed, ih]

theorem fixed_injective {width m n : Nat} (hm : m < Nat.pow 16 width) (hn : n < Nat.pow 16 width)
    (h : fixed width m = fixed width n) : m = n := by
  induction width generalizing m n with
  | zero =>
    have hone : Nat.pow 16 0 = 1 := rfl
    omega
  | succ width ih =>
    have hpow : Nat.pow 16 (width + 1) = Nat.pow 16 width * 16 := rfl
    obtain ⟨hhigh, hlow⟩ := List.append_inj' h rfl
    have hdiv : m / 16 = n / 16 := ih (by omega) (by omega) hhigh
    have hmod : m % 16 = n % 16 :=
      digit_injective (by omega) (by omega) (List.cons.inj hlow).1
    omega

theorem word_append_inj {v w : UInt64} {r s : List Char}
    (h : (word v).toList ++ r = (word w).toList ++ s) : v = w ∧ r = s := by
  simp only [word, String.toList_ofList] at h
  obtain ⟨hdigits, hrs⟩ := List.append_inj h (by rw [length_fixed, length_fixed])
  refine ⟨UInt64.toNat_inj.mp (fixed_injective ?_ ?_ hdigits), hrs⟩
  · exact v.toNat_lt
  · exact w.toNat_lt

end Hex

/-! ## Kinds -/

mutual

def Kind.names : Kind → List String
  | .handle t _ => [t]
  | .shared n _ => [n]
  | .callback args => Kind.allNames args
  | _ => []

def Kind.allNames : List Kind → List String
  | [] => []
  | k :: ks => k.names ++ Kind.allNames ks

end

namespace Kind

def Named (k : Kind) : Prop := ∀ n ∈ k.names, Identifier n

instance (k : Kind) : Decidable k.Named := inferInstanceAs (Decidable (∀ n ∈ k.names, Identifier n))

/-- The word a kind's text begins with. -/
def word : Kind → String
  | .unit => "unit"
  | .scalar s => s.name
  | .text => "text"
  | .bytes => "bytes"
  | .ownedText => "string"
  | .ownedBytes => "vec"
  | .foreignBytes => "foreign_vec"
  | .handle _ p => p.name
  | .shared _ _ => "shared"
  | .callback _ => "fn"

def rest : Kind → String
  | .ownedBytes | .foreignBytes => "<u8>"
  | .handle t _ => " handle<" ++ t ++ ">"
  | .shared n fp => " " ++ n ++ "#" ++ Hex.word fp
  | .callback args => "(" ++ joined ", " (args.map display) ++ ")"
  | _ => ""

theorem displays_eq (ks : List Kind) : displays ks = ks.map display := by
  induction ks with
  | nil => simp [displays]
  | cons k ks ih => simp [displays, ih]

theorem display_eq (k : Kind) : k.display = k.word ++ k.rest := by
  cases k <;> simp [display, word, rest, displays_eq, ← String.append_assoc]

theorem identifier_word (k : Kind) : Identifier k.word := by
  cases k with
  | scalar s => exact s.identifier_name
  | handle t p => cases p <;> (simp only [word]; decide)
  | _ => simp only [word]; decide

/-- The kind with what its first word does not tell left blank. -/
def outline : Kind → Kind
  | .handle _ p => .handle "" p
  | .shared _ _ => .shared "" 0
  | .callback _ => .callback []
  | k => k

/-- The outline of the kinds that begin with a word. -/
def ofWord? : String → Option Kind
  | "unit" => some .unit
  | "text" => some .text
  | "bytes" => some .bytes
  | "string" => some .ownedText
  | "vec" => some .ownedBytes
  | "foreign_vec" => some .foreignBytes
  | "val" => some (.handle "" .value)
  | "ref" => some (.handle "" .reference)
  | "own" => some (.handle "" .ownership)
  | "shared" => some (.shared "" 0)
  | "fn" => some (.callback [])
  | w => (Scalar.ofName? w).map .scalar

theorem ofWord?_word (k : Kind) : ofWord? k.word = some k.outline := by
  cases k with
  | scalar s => cases s <;> rfl
  | handle t p => cases p <;> rfl
  | _ => rfl

theorem outline_eq_of_word {k k' : Kind} (h : k.word = k'.word) : k.outline = k'.outline := by
  rw [← Option.some_inj, ← ofWord?_word, ← ofWord?_word, h]

theorem delimits_args : Delimits display Named Ends ", " ")" := by
  refine ⟨ends_append (by decide), ends_append (by decide), fun r s h => ?_, fun k _ r s h => ?_⟩
  · simp at h
  · rw [display_eq, String.toList_append, List.append_assoc] at h
    exact k.identifier_word.append_ne (by decide) h

theorem allNames_eq (ks : List Kind) : allNames ks = ks.flatMap names := by
  induction ks with
  | nil => rfl
  | cons k ks ih => simp [allNames, ih]

theorem callback_named {args : List Kind} (h : (Kind.callback args).Named) : ∀ k ∈ args, k.Named := by
  intro k hk n hn
  refine h n ?_
  simp only [names, allNames_eq]
  exact List.mem_flatMap.mpr ⟨k, hk, hn⟩

/-- What comes after equal first words tells the rest of two kinds of one sort, given that it does so for the
arguments of callbacks. -/
theorem rest_inj {k k' : Kind} (hk : k.Named) (hk' : k'.Named)
    (inner : ∀ args, k = .callback args → ∀ a ∈ args, Readable display Named Ends a)
    (houtline : k.outline = k'.outline) {r s : List Char}
    (h : k.rest.toList ++ r = k'.rest.toList ++ s) : k = k' ∧ r = s := by
  cases k with
  | handle t p =>
    obtain ⟨t', rfl⟩ : ∃ t', k' = .handle t' p := by
      cases k' <;> cases houtline
      exact ⟨_, rfl⟩
    simp only [rest, String.toList_append, List.append_assoc, List.append_cancel_left_eq] at h
    have ht : Identifier t := hk t (by simp [names])
    have ht' : Identifier t' := hk' t' (by simp [names])
    obtain ⟨rfl, hrest⟩ := ht.append_inj ht' (ends_append (by decide) _) (ends_append (by decide) _) h
    exact ⟨rfl, List.append_cancel_left hrest⟩
  | shared n fp =>
    obtain ⟨n', fp', rfl⟩ : ∃ n' fp', k' = .shared n' fp' := by
      cases k' <;> cases houtline
      exact ⟨_, _, rfl⟩
    simp only [rest, String.toList_append, List.append_assoc, List.append_cancel_left_eq] at h
    have hn : Identifier n := hk n (by simp [names])
    have hn' : Identifier n' := hk' n' (by simp [names])
    obtain ⟨rfl, hrest⟩ := hn.append_inj hn' (ends_append (by decide) _) (ends_append (by decide) _) h
    obtain ⟨rfl, hrs⟩ := Hex.word_append_inj (List.append_cancel_left hrest)
    exact ⟨rfl, hrs⟩
  | callback args =>
    obtain ⟨args', rfl⟩ : ∃ args', k' = .callback args' := by
      cases k' <;> cases houtline
      exact ⟨_, rfl⟩
    simp only [rest, String.toList_append, List.append_assoc, List.append_cancel_left_eq] at h
    obtain ⟨rfl, hrs⟩ := joined_inj delimits_args (inner args rfl) (callback_named hk) (callback_named hk') h
    exact ⟨rfl, hrs⟩
  | _ =>
    cases k' <;> cases houtline
    exact ⟨rfl, List.append_cancel_left h⟩

mutual

/-- Whatever holds of a kind if it holds of the arguments of a callback holds of every kind. -/
theorem induction_on_args {P : Kind → Prop}
    (step : ∀ k, (∀ args, k = .callback args → ∀ a ∈ args, P a) → P k) (k : Kind) : P k := by
  refine step k fun args hargs => ?_
  cases k with
  | callback as =>
    cases hargs
    exact forall_args step args
  | _ => cases hargs

theorem forall_args {P : Kind → Prop}
    (step : ∀ k, (∀ args, k = .callback args → ∀ a ∈ args, P a) → P k) (ks : List Kind) :
    ∀ a ∈ ks, P a := by
  cases ks with
  | nil => intro a ha; cases ha
  | cons k ks => exact List.forall_mem_cons.mpr ⟨induction_on_args step k, forall_args step ks⟩

end

theorem ends_rest (k : Kind) {q : List Char} (hq : Ends q) : Ends (k.rest.toList ++ q) := by
  cases k with
  | ownedBytes => exact ends_append (by decide) q
  | foreignBytes => exact ends_append (by decide) q
  | handle t p =>
    simp only [rest, String.toList_append, List.append_assoc]
    exact ends_append (by decide) _
  | shared n fp =>
    simp only [rest, String.toList_append, List.append_assoc]
    exact ends_append (by decide) _
  | callback args =>
    simp only [rest, String.toList_append, List.append_assoc]
    exact ends_append (by decide) _
  | _ => simpa [rest] using hq

/-- By induction on the nesting of callbacks: the first words of two texts agree, so the kinds are of one sort,
and then the rest agrees. -/
theorem readable (k : Kind) (hk : k.Named) : Readable display Named Ends k := by
  induction k using induction_on_args with
  | step k ih =>
    refine .of_word display_eq (fun k _ => k.identifier_word) (fun k _ hr => k.ends_rest hr) hk ?_
    intro k' hk' hword r s _ _ h
    refine rest_inj hk hk' (fun args hargs a ha => ?_) (outline_eq_of_word hword) h
    subst hargs
    exact ih args rfl a ha (callback_named hk a ha)

end Kind

/-! ## Namespaces -/

/-- Identifiers with double colons between them. -/
def IsPath (s : String) : Prop :=
  ∃ segments : List String, segments ≠ [] ∧ (∀ n ∈ segments, Identifier n) ∧ s = joined "::" segments

theorem joined_concat {separator last : String} {parts : List String} (h : parts ≠ []) :
    joined separator (parts ++ [last]) = joined separator parts ++ separator ++ last := by
  induction parts with
  | nil => exact absurd rfl h
  | cons first rest ih =>
    cases rest with
    | nil => rfl
    | cons second rest =>
      simp only [List.cons_append, joined] at ih ⊢
      rw [ih (List.cons_ne_nil _ _)]
      simp only [String.append_assoc]

theorem delimits_segments {separator : String} (hend : separator.toList.head?.any (fun c => !isWord c) = true)
    (hne : separator.toList.head? ≠ some '(') : Delimits id Identifier Ends separator "(" := by
  refine ⟨ends_append hend, ends_append (by decide), fun r s h => ?_, fun n hn r s h => ?_⟩
  · cases hl : separator.toList with
    | nil => rw [hl] at hend; cases hend
    | cons c cs =>
      rw [hl] at h hne
      cases h
      exact hne rfl
  · exact hn.append_ne (by decide) h

/-- The last of the joined identifiers is told from those before it. -/
theorem joined_concat_inj {separator : String} (hd : Delimits id Identifier Ends separator "(")
    {segments segments' : List String} {n n' : String} (h : ∀ m ∈ segments, Identifier m)
    (h' : ∀ m ∈ segments', Identifier m) (hn : Identifier n) (hn' : Identifier n') {r s : List Char}
    (heq : (joined separator (segments ++ [n])).toList ++ ("(".toList ++ r) =
      (joined separator (segments' ++ [n'])).toList ++ ("(".toList ++ s)) :
    segments = segments' ∧ n = n' ∧ r = s := by
  have hall := List.forall_mem_append.mpr ⟨h, List.forall_mem_singleton.mpr hn⟩
  have hall' := List.forall_mem_append.mpr ⟨h', List.forall_mem_singleton.mpr hn'⟩
  rw [← List.map_id (segments ++ [n]), ← List.map_id (segments' ++ [n'])] at heq
  obtain ⟨hsegments, hrs⟩ :=
    joined_inj hd (fun m hm => (hall m hm).readable) hall hall' heq
  obtain ⟨hsegments, hlast⟩ := List.append_inj' hsegments rfl
  exact ⟨hsegments, (List.cons.inj hlast).1, hrs⟩

theorem Side.identifier_name (c : Side) : Identifier c.name := by
  cases c <;> decide

theorem Side.name_injective {c d : Side} (h : c.name = d.name) : c = d := by
  revert h
  cases c <;> cases d <;> decide

namespace Signature

theorem flatten_word {w : List Char} (hw : ∀ c ∈ w, isWord c = true) (cs : List Char) :
    flatten (w ++ cs) = w ++ flatten cs := by
  induction w with
  | nil => rfl
  | cons c w ih =>
    have hc : c ≠ ':' := by
      rintro rfl
      exact absurd (hw _ List.mem_cons_self) (by decide)
    rw [List.cons_append, flatten, ih fun d hd => hw d (List.mem_cons_of_mem _ hd), List.cons_append]
    exact fun _ hcolon _ => hc hcolon

theorem flatten_joined {segments : List String} (h : ∀ n ∈ segments, Identifier n) :
    flatten (joined "::" segments).toList = (joined "$" segments).toList := by
  induction segments with
  | nil => rfl
  | cons first rest ih =>
    have hfirst : Identifier first := h first List.mem_cons_self
    cases rest with
    | nil =>
      simp only [joined]
      rw [← List.append_nil first.toList, flatten_word hfirst.word, flatten]
    | cons second rest =>
      simp only [joined, String.toList_append, List.append_assoc]
      rw [flatten_word hfirst.word, ← ih fun n hn => h n (List.mem_cons_of_mem _ hn)]
      rfl

/-- The names in a signature are identifiers, and its namespace is a path of them. -/
structure Named (s : Signature) : Prop where
  path : IsPath s.namespacePath
  name : Identifier s.name
  args : ∀ a ∈ s.args, Identifier a.1 ∧ a.2.Named
  returns : s.returns.Named

theorem symbol_eq {s : Signature} {segments : List String} (hne : segments ≠ [])
    (hsegments : ∀ n ∈ segments, Identifier n) (hpath : s.namespacePath = joined "::" segments) :
    s.symbol = s!"mcbridge{abiVersion}$" ++ joined "$" (segments ++ [s.name]) := by
  unfold symbol
  rw [hpath, flatten_joined hsegments, String.ofList_toList, joined_concat hne]
  simp only [String.append_assoc]

theorem symbol_inj {s t : Signature} (hs : s.Named) (ht : t.Named) (h : s.symbol = t.symbol) :
    s.namespacePath = t.namespacePath ∧ s.name = t.name := by
  obtain ⟨ss, hss, hssid, hspath⟩ := hs.path
  obtain ⟨ts, hts, htsid, htpath⟩ := ht.path
  rw [symbol_eq hss hssid hspath, symbol_eq hts htsid htpath, String.append_right_inj] at h
  have hd : Delimits id Identifier Ends "$" "(" := delimits_segments (by decide) (by decide)
  -- nothing comes after a symbol, so the mark that closes the segments is put after both
  obtain ⟨rfl, hname, _⟩ := joined_concat_inj hd hssid htsid hs.name ht.name (r := []) (s := [])
    (by rw [h])
  exact ⟨hspath.trans htpath.symm, hname⟩

theorem delimits_named_args :
    Delimits (fun a : String × Kind => a.1 ++ ": " ++ a.2.display)
      (fun a => Identifier a.1 ∧ a.2.Named) Ends ", " ") -> " := by
  refine ⟨ends_append (by decide), ends_append (by decide), fun r s h => ?_, fun a ha r s h => ?_⟩
  · simp at h
  · simp only [String.toList_append, List.append_assoc] at h
    exact ha.1.append_ne (by decide) h

def ending (s : Signature) : String := if s.fallible then " fallible" else ""

theorem ends_ending (s : Signature) : Ends s.ending.toList := by
  unfold ending
  split
  · exact ends_cons (by decide)
  · exact ends_nil

theorem fallible_eq_of_ending {s t : Signature} (h : s.ending.toList = t.ending.toList) :
    s.fallible = t.fallible := by
  unfold ending at h
  cases hs : s.fallible <;> cases ht : t.fallible <;> simp_all

theorem toList_canonical {s : Signature} {segments : List String} (hne : segments ≠ [])
    (hpath : s.namespacePath = joined "::" segments) :
    s.canonical.toList = (s!"v{abiVersion} ").toList ++ (s.callee.name.toList ++ (" ".toList ++
      ((joined "::" (segments ++ [s.name])).toList ++ ("(".toList ++
        ((joined ", " (s.args.map fun a => a.1 ++ ": " ++ a.2.display)).toList ++ (") -> ".toList ++
          (s.returns.display.toList ++ s.ending.toList))))))) := by
  rw [joined_concat hne, ← hpath]
  unfold canonical ending
  simp only [String.toList_append, List.append_assoc]

theorem canonical_inj {s t : Signature} (hs : s.Named) (ht : t.Named) (h : s.canonical = t.canonical) :
    s = t := by
  obtain ⟨ss, hss, hssid, hspath⟩ := hs.path
  obtain ⟨ts, hts, htsid, htpath⟩ := ht.path
  have htext := congrArg String.toList h
  rw [toList_canonical hss hspath, toList_canonical hts htpath, List.append_cancel_left_eq] at htext
  obtain ⟨hcallee, htext⟩ := s.callee.identifier_name.append_inj t.callee.identifier_name
    (ends_append (by decide) _) (ends_append (by decide) _) htext
  rw [List.append_cancel_left_eq] at htext
  have hd : Delimits id Identifier Ends "::" "(" := delimits_segments (by decide) (by decide)
  obtain ⟨rfl, hname, htext⟩ := joined_concat_inj hd hssid htsid hs.name ht.name htext
  have hgap : ∀ r, Ends (": ".toList ++ r) := ends_append (by decide)
  obtain ⟨hargs, htext⟩ := joined_inj delimits_named_args
    (fun a ha => .named hgap (hs.args a ha).1 (a.2.readable (hs.args a ha).2)) hs.args ht.args htext
  obtain ⟨hreturns, hending⟩ := s.returns.readable hs.returns t.returns ht.returns _ _
    s.ends_ending t.ends_ending htext
  have hfallible : s.fallible = t.fallible := fallible_eq_of_ending hending
  cases s
  cases t
  rw [mk.injEq]
  exact ⟨hspath.trans htpath.symm, hname, Side.name_injective hcallee, hargs, hreturns, hfallible⟩

end Signature

theorem signature_text_identifies {s t : Signature} (hs : s.Named) (ht : t.Named) :
    (s.canonical = t.canonical ↔ s = t) ∧
    (s.symbol = t.symbol ↔ s.namespacePath = t.namespacePath ∧ s.name = t.name) ∧
    ∀ texts : Set (List UInt8), Set.InjOn fingerprint texts →
      utf8 s.canonical ∈ texts → utf8 t.canonical ∈ texts →
      (s.fingerprint = t.fingerprint ↔ s = t) := by
  refine ⟨⟨Signature.canonical_inj hs ht, fun h => by rw [h]⟩, ⟨Signature.symbol_inj hs ht, ?_⟩, ?_⟩
  · rintro ⟨hpath, hname⟩
    unfold Signature.symbol
    rw [hpath, hname]
  · intro texts hinj hstext httext
    refine ⟨fun h => ?_, fun h => by rw [h]⟩
    exact Signature.canonical_inj hs ht (utf8_injective (hinj hstext httext h))

namespace Signature

/-- A callback whose one argument is a callback of two arguments. -/
def tapWithin : Signature where
  namespacePath := "io::log"
  name := "tap"
  callee := .host
  args := [("sink", .callback [.callback [.unit, .text]])]

/-- The same characters but for the place of one bracket. -/
def tapBeside : Signature where
  namespacePath := "io::log"
  name := "tap"
  callee := .host
  args := [("sink", .callback [.callback [.unit], .text])]

theorem tapWithin_named : tapWithin.Named :=
  ⟨⟨["io", "log"], by decide, by decide, by decide⟩, by decide, by decide, by decide⟩

theorem tapBeside_named : tapBeside.Named :=
  ⟨⟨["io", "log"], by decide, by decide, by decide⟩, by decide, by decide, by decide⟩

end Signature

open Signature in
theorem signature_text_identifies_of_tap :
    tapWithin.Named ∧ tapBeside.Named ∧ tapWithin.canonical ≠ tapBeside.canonical ∧
      tapWithin.symbol = tapBeside.symbol ∧ tapWithin.fingerprint ≠ tapBeside.fingerprint := by
  obtain ⟨htext, hsymbol, hprint⟩ := signature_text_identifies tapWithin_named tapBeside_named
  have hne : tapWithin ≠ tapBeside := by simp [tapWithin, tapBeside]
  have hinj : Set.InjOn fingerprint {utf8 tapWithin.canonical, utf8 tapBeside.canonical} :=
    Set.injOn_pair.mpr fun h => absurd h (by decide +kernel)
  refine ⟨tapWithin_named, tapBeside_named, fun h => hne (htext.mp h), hsymbol.mpr ⟨rfl, rfl⟩, ?_⟩
  intro h
  exact hne ((hprint _ hinj (.inl rfl) (.inr rfl)).mp h)

end Causeway
