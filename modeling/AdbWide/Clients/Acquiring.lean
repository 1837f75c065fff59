import AdbWide.Clients.Selection

/-!
# Which transport is acquired

`acquire_one_transport` goes through the list of transports once, keeps the first that is wanted and
gives up at the second.  This file proves that it returns the only one there is, however long the
list, and nothing else.
-/

namespace AdbWide
namespace Clients

open Sockets.Server

/-! ## The loops of `qual_match` -/

/-- `while (*prefix) { if (*prefix++ != *to_test++) return 0; }`, and where `to_test` is then. -/
def skipPrefix : List UInt8 → List UInt8 → Option (List UInt8)
  | [], toTest => some toTest
  | _ :: _, [] => none
  | c :: pre, d :: toTest => if c ≠ d then none else skipPrefix pre toTest

/-- `while (*qual) { .. }`, and `return !*to_test` after it. -/
def matchQual (sanitizeQual : Bool) : List UInt8 → List UInt8 → Bool
  | [], toTest => toTest = []
  | _ :: _, [] => false
  | ch :: qual, d :: toTest =>
      let ch := if sanitizeQual ∧ qualCharIsInvalid ch then 95 else ch
      if ch ≠ d then false else matchQual sanitizeQual qual toTest

/-- `qual_match` with its loops, for a text to test that is not `NULL`. -/
def qualMatchLoops (toTest pre : List UInt8) (qual : Option (List UInt8)) (sanitizeQual : Bool) :
    Bool :=
  if toTest = [] then qual = none ∨ qual = some []
  else
    match qual with
    | none => false
    | some qual =>
        match skipPrefix pre toTest with
        | none => false
        | some toTest => matchQual sanitizeQual qual toTest

theorem skipPrefix_eq_some_iff (pre toTest rest : List UInt8) :
    skipPrefix pre toTest = some rest ↔ toTest = pre ++ rest := by
  induction pre generalizing toTest with
  | nil => simp [skipPrefix]
  | cons c pre induction =>
      cases toTest with
      | nil => simp [skipPrefix]
      | cons d toTest =>
          rw [skipPrefix]
          split
          · next different =>
              simp only [reduceCtorEq, List.cons_append, List.cons.injEq, false_iff, not_and]
              exact fun same => absurd same.symm different
          · next same =>
              rw [not_ne_iff] at same
              rw [induction, same, List.cons_append, List.cons.injEq, eq_self_iff_true, true_and]

theorem matchQual_iff (sanitizeQual : Bool) (qual toTest : List UInt8) :
    matchQual sanitizeQual qual toTest = true ↔
      toTest = qual.map fun c => if sanitizeQual ∧ qualCharIsInvalid c then 95 else c := by
  induction qual generalizing toTest with
  | nil => simp [matchQual]
  | cons ch qual induction =>
      cases toTest with
      | nil => simp [matchQual]
      | cons d toTest =>
          rw [matchQual, List.map_cons, List.cons.injEq, ← induction]
          generalize (if sanitizeQual = true ∧ qualCharIsInvalid ch = true then 95 else ch) = ch
          split
          · next different => simpa using fun same => absurd same.symm different
          · next same =>
              rw [not_ne_iff] at same
              rw [same, eq_self_iff_true, true_and]

/-- The loops compare with the prefix and the sanitized name. -/
theorem qualMatchLoops_eq (toTest pre : List UInt8) (qual : Option (List UInt8))
    (sanitizeQual : Bool) :
    qualMatchLoops toTest pre qual sanitizeQual = qualMatch toTest pre qual sanitizeQual := by
  rw [Bool.eq_iff_iff]
  unfold qualMatchLoops qualMatch
  cases qual with
  | none => by_cases empty : toTest = [] <;> simp [empty]
  | some qual =>
      by_cases empty : toTest = []
      · simp [empty]
      · rw [if_neg empty]
        simp only [if_neg empty, decide_eq_true_eq]
        cases skipped : skipPrefix pre toTest with
        | none =>
            refine iff_of_false Bool.false_ne_true fun same => ?_
            rw [(skipPrefix_eq_some_iff pre toTest _).mpr same] at skipped
            cases skipped
        | some rest =>
            rw [(skipPrefix_eq_some_iff pre toTest rest).mp skipped]
            dsimp only
            rw [matchQual_iff, List.append_cancel_left_eq]

/-! ## What is asked for -/

/-- A character of the name of a model as it is compared: `_` for what is not alphanumeric. -/
def sanitize (c : UInt8) : UInt8 := if (Char.ofNat c.toNat).isAlphanum then c else 95

/-- The transport matches the selector: a serial, or without one a type. -/
inductive Matches (t : Atransport) : TransportType → Option (List UInt8) → Prop where
  | serial {ttype : TransportType} {serial : List UInt8} :
      t.serial = some serial → Matches t ttype (some serial)
  | devpath {ttype : TransportType} {devpath : List UInt8} :
      t.devpath = some devpath → Matches t ttype (some devpath)
  | product {ttype : TransportType} {product : List UInt8} :
      t.product = some product → Matches t ttype (some (ascii "product:" ++ product))
  | model {ttype : TransportType} {model : List UInt8} :
      t.model = some model → Matches t ttype (some (ascii "model:" ++ model.map sanitize))
  | device {ttype : TransportType} {device : List UInt8} :
      t.device = some device → Matches t ttype (some (ascii "device:" ++ device))
  | any : Matches t .any none
  | usb : t.type = .usb → Matches t .usb none
  | localTransport : t.type = .localTransport → Matches t .localTransport none

/-- The transport is the only one on the list that may be used and matches the selector. -/
def OnlyMatch (list : List Atransport) (ttype : TransportType) (serial : Option (List UInt8))
    (t : Atransport) : Prop :=
  ∃ before after, list = before ++ t :: after ∧
    (t.connectionState ≠ .noPerm ∧ Matches t ttype serial) ∧
      ∀ other ∈ before ++ after, ¬(other.connectionState ≠ .noPerm ∧ Matches other ttype serial)

theorem qualCharIsInvalid_eq (c : UInt8) :
    qualCharIsInvalid c = !(Char.ofNat c.toNat).isAlphanum := by
  have small := c.toNat_lt
  have valid : c.toNat.isValidChar := .inl (by omega)
  have value : (Char.ofNat c.toNat).val.toNat = c.toNat := by
    rw [Char.ofNat, dif_pos valid]
    rfl
  have alphanum (letter : Char) : letter.isAlphanum =
      (decide ('A'.val ≤ letter.val ∧ letter.val ≤ 'Z'.val) ||
        (decide ('a'.val ≤ letter.val) && decide (letter.val ≤ 'z'.val)) ||
        (decide ('0'.val ≤ letter.val) && decide (letter.val ≤ '9'.val))) := rfl
  rw [Bool.eq_iff_iff]
  simp only [qualCharIsInvalid, alphanum, UInt8.le_iff_toNat_le, UInt32.le_iff_toNat_le, value,
    decide_eq_true_eq, Bool.not_eq_true', Bool.or_eq_false_iff, Bool.and_eq_false_imp,
    decide_eq_false_iff_not, UInt8.reduceToNat, Char.reduceVal, UInt32.reduceToNat]
  omega

theorem sanitize_eq (c : UInt8) : (if qualCharIsInvalid c then 95 else c) = sanitize c := by
  rw [qualCharIsInvalid_eq, sanitize]
  cases (Char.ofNat c.toNat).isAlphanum <;> rfl

theorem qualMatch_iff {toTest : List UInt8} (nonempty : toTest ≠ []) (pre : List UInt8)
    (qual : Option (List UInt8)) (sanitizeQual : Bool) :
    qualMatch toTest pre qual sanitizeQual = true ↔
      ∃ name, qual = some name ∧
        toTest = pre ++ if sanitizeQual then name.map sanitize else name := by
  cases qual with
  | none => simp [qualMatch, nonempty]
  | some name =>
      cases sanitizeQual with
      | false => simp [qualMatch, nonempty]
      | true => simp [qualMatch, nonempty, sanitize_eq]

/-- What the loop tests is what the selector asks for. -/
theorem isWanted_iff (t : Atransport) (ttype : TransportType) {serial : Option (List UInt8)}
    (nonempty : serial ≠ some []) : t.isWanted ttype serial = true ↔ Matches t ttype serial := by
  cases serial with
  | none =>
      simp only [Atransport.isWanted, decide_eq_true_eq]
      constructor
      · rintro (⟨rfl, same⟩ | ⟨rfl, same⟩ | rfl)
        · exact .usb same
        · exact .localTransport same
        · exact .any
      · rintro (_ | _ | _ | _ | _ | _ | same | same)
        · exact .inr (.inr rfl)
        · exact .inl ⟨rfl, same⟩
        · exact .inr (.inl ⟨rfl, same⟩)
  | some serial =>
      have nonempty' : serial ≠ [] := fun empty => nonempty (congrArg some empty)
      simp only [Atransport.isWanted, Atransport.isNamed, decide_eq_true_eq,
        qualMatch_iff nonempty', Bool.false_eq_true, if_false, if_true]
      constructor
      · rintro (same | same | ⟨name, named, rfl⟩ | ⟨name, named, rfl⟩ | ⟨name, named, rfl⟩)
        · exact .serial same
        · exact .devpath same
        · exact .product named
        · exact .model named
        · exact .device named
      · rintro (same | same | named | named | named)
        · exact .inl same
        · exact .inr (.inl same)
        · exact .inr (.inr (.inl ⟨_, named, rfl⟩))
        · exact .inr (.inr (.inr (.inl ⟨_, named, rfl⟩)))
        · exact .inr (.inr (.inr (.inr ⟨_, named, rfl⟩)))

/-! ## The scan -/

section
variable {ttype : TransportType} {serial : Option (List UInt8)} {t : Atransport}

/-- The transports the scan stops at. -/
def candidates (list : List Atransport) (ttype : TransportType) (serial : Option (List UInt8)) :
    List Atransport :=
  list.filter fun t => t.connectionState ≠ .noPerm ∧ t.isWanted ttype serial

/-- After a candidate was found there must be no other. -/
theorem searchTransports_some (list : List Atransport) (found : Atransport)
    (message : List UInt8) :
    searchTransports ttype serial list (some found) message = .ok t ↔
      found = t ∧ candidates list ttype serial = [] := by
  induction list generalizing message with
  | nil => simp [searchTransports, candidates]
  | cons head list induction =>
      rw [searchTransports]
      split
      · next noPerm => simp [induction, candidates, noPerm]
      · next allowed =>
          split
          · next wanted => simp [candidates, allowed, wanted]
          · next unwanted => simp [induction, candidates, unwanted]

/-- The scan finds a transport that is the only candidate. -/
theorem searchTransports_none (list : List Atransport) (message : List UInt8) :
    searchTransports ttype serial list none message = .ok t ↔
      candidates list ttype serial = [t] := by
  induction list generalizing message with
  | nil => simp [searchTransports, candidates]
  | cons head list induction =>
      rw [searchTransports]
      split
      · next noPerm => simp [induction, candidates, noPerm]
      · next allowed =>
          split
          · next wanted =>
              rw [searchTransports_some]
              simp [candidates, allowed, wanted]
          · next unwanted => simp [induction, candidates, unwanted]

theorem onlyMatch_iff (list : List Atransport) (nonempty : serial ≠ some []) :
    OnlyMatch list ttype serial t ↔ candidates list ttype serial = [t] := by
  have candidate : ∀ other : Atransport,
      decide (other.connectionState ≠ .noPerm ∧ other.isWanted ttype serial = true) = true ↔
        other.connectionState ≠ .noPerm ∧ Matches other ttype serial := by
    intro other
    rw [decide_eq_true_eq, isWanted_iff other ttype nonempty]
  rw [candidates, List.filter_eq_cons_iff]
  simp only [candidate, List.filter_eq_nil_iff]
  refine exists_congr fun before => exists_congr fun after => and_congr_right fun _ => ?_
  constructor
  · rintro ⟨matching, others⟩
    exact ⟨fun other inside => others other (List.mem_append_left _ inside), matching,
      fun other inside => others other (List.mem_append_right _ inside)⟩
  · rintro ⟨front, matching, back⟩
    refine ⟨matching, fun other inside => ?_⟩
    exact (List.mem_append.mp inside).elim (front other) (back other)

/-- What is returned in the end. -/
theorem acquireOneTransport_eq_ok_iff (list : List Atransport) (nonempty : serial ≠ some []) :
    acquireOneTransport list ttype serial = .ok t ↔
      OnlyMatch list ttype serial t ∧ t.connectionState ≠ .unauthorized ∧
        t.connectionState ≠ .offline := by
  rw [onlyMatch_iff list nonempty, ← searchTransports_none list (ascii "device not found"),
    acquireOneTransport]
  cases searchTransports ttype serial list none (ascii "device not found") with
  | error message => simp [bind, Except.bind]
  | ok found =>
      simp only [bind, Except.bind, Except.ok.injEq]
      split
      · next unauthorized =>
          refine iff_of_false (by simp) ?_
          rintro ⟨rfl, authorized, -⟩
          exact authorized unauthorized
      · next authorized =>
          split
          · next offline =>
              refine iff_of_false (by simp) ?_
              rintro ⟨rfl, -, online⟩
              exact online offline
          · next online =>
              rw [Except.ok.injEq]
              constructor
              · rintro rfl
                exact ⟨rfl, authorized, online⟩
              · exact And.left

end

/-- `acquire_one_transport` returns the only transport that may be used and matches the selector, if
it is neither unauthorized nor offline; otherwise it returns none. -/
theorem acquireOneTransport_onlyMatch (list : List Atransport) (ttype : TransportType)
    {serial : Option (List UInt8)} (nonempty : serial ≠ some []) :
    (∀ t, acquireOneTransport list ttype serial = .ok t ↔
      OnlyMatch list ttype serial t ∧ t.connectionState ≠ .unauthorized ∧
        t.connectionState ≠ .offline) ∧
      ((∃ message, acquireOneTransport list ttype serial = .error message) ↔
        ∀ t, ¬(OnlyMatch list ttype serial t ∧ t.connectionState ≠ .unauthorized ∧
          t.connectionState ≠ .offline)) := by
  refine ⟨fun t => acquireOneTransport_eq_ok_iff list nonempty, ?_⟩
  simp only [← acquireOneTransport_eq_ok_iff list nonempty]
  cases acquireOneTransport list ttype serial with
  | error message => simp
  | ok t => simp

/-- A phone whose model is called `N-5`. -/
def phone : Atransport :=
  { address := 1, type := .usb, connectionState := .device, model := some [78, 45, 53] }

/-- A phone of the same model that may not be used, and an emulator. -/
def others : List Atransport :=
  [{ address := 2, type := .usb, connectionState := .noPerm, model := some [78, 45, 53] },
    { address := 3, type := .localTransport, connectionState := .offline, serial := some [51] }]

/-- `model:N_5` selects the phone. -/
theorem acquireOneTransport_onlyMatch_phone :
    acquireOneTransport (phone :: others) .any (some (ascii "model:" ++ [78, 95, 53])) =
      .ok phone := by
  have nonempty : some (ascii "model:" ++ [78, 95, 53]) ≠ some [] := by simp
  refine ((acquireOneTransport_onlyMatch _ _ nonempty).1 phone).mpr ⟨⟨[], others, rfl, ?_, ?_⟩, ?_⟩
  · have name : [78, 95, 53] = [78, 45, 53].map sanitize := by decide
    rw [name]
    exact ⟨by decide, .model rfl⟩
  · simp only [← isWanted_iff _ _ nonempty]
    with_unfolding_all decide
  · decide

end Clients
end AdbWide
