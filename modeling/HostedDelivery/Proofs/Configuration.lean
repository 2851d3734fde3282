import HostedDelivery.Launch
import HostedDelivery.Proofs.Text

/-!
# What an environment configures

A number may be set to any text that spells it with blanks around it (`Configuration.Says`). The environment is accepted
if each variable that is set to a number says one within its word, and then these are the numbers of the configuration
(`environment_is_read`). Otherwise the first variable that does not is named in the error, as it is written.
-/

namespace HostedDelivery

theorem Numeral.Spells.solid {cs : List Char} {n : Nat} (spells : Spells cs n) :
    ∀ c ∈ cs, Text.isBlank c = false := by
  obtain ⟨sign, digits, rfl, signed, -, all, -⟩ := spells
  intro c member
  rcases List.mem_append.mp member with inSign | inDigits
  · rcases signed with rfl | rfl
    · cases inSign
    · obtain rfl := List.mem_singleton.mp inSign
      decide
  · exact Text.isBlank_of_isDigit (all c inDigits)

namespace Configuration
variable {lookup : String → Option String} {name raw : String} {limit default n : Nat}

/-- A text spells a number, with blanks around it. -/
def Says (raw : String) (n : Nat) : Prop :=
  ∃ before cs after, raw.toList = before ++ cs ++ after ∧ (∀ c ∈ before, Text.isBlank c) ∧
    (∀ c ∈ after, Text.isBlank c) ∧ Numeral.Spells cs n

/-- A variable says a number below a limit, or is not set and leaves the default. -/
def Sets (lookup : String → Option String) (name : String) (limit default n : Nat) : Prop :=
  match lookup name with
  | none => n = default
  | some raw => Says raw n ∧ n < limit

/-- A variable says no number below a limit. -/
def Offends (lookup : String → Option String) (name : String) (limit : Nat) (raw : String) : Prop :=
  lookup name = some raw ∧ ¬ ∃ n, Says raw n ∧ n < limit

theorem read_trim_eq_ok_iff (positive : 0 < limit) :
    Numeral.read limit (Text.trim raw) = .ok n ↔ Says raw n ∧ n < limit := by
  rw [Numeral.read, Text.trim, String.toList_ofList, Numeral.readChars_eq_ok_iff positive]
  refine and_congr_left fun _ => ?_
  constructor
  · intro spells
    obtain ⟨before, after, blank, blank', split⟩ := Text.exists_trimChars raw.toList
    exact ⟨before, _, after, split, blank, blank', spells⟩
  · rintro ⟨before, cs, after, split, blank, blank', spells⟩
    rw [split, Text.trimChars_of_solid blank spells.solid blank']
    exact spells

/-- No text says two numbers: a reader with room for both would have to choose. -/
theorem Says.unique {m : Nat} (first : Says raw m) (second : Says raw n) : m = n := by
  have room : 0 < m + n + 1 := Nat.succ_pos _
  have asFirst := (read_trim_eq_ok_iff room).mpr ⟨first, by omega⟩
  have asSecond := (read_trim_eq_ok_iff room).mpr ⟨second, by omega⟩
  exact Except.ok.inj (asFirst.symm.trans asSecond)

/-- A variable that offends sets nothing. -/
theorem Offends.not_sets (offends : Offends lookup name limit raw) : ¬ ∃ n, Sets lookup name limit default n := by
  obtain ⟨written, unreadable⟩ := offends
  rintro ⟨n, sets⟩
  rw [Sets, written] at sets
  exact unreadable ⟨n, sets⟩

/-- A number is read as it is set, or the variable is named as it is written. -/
theorem number_cases (positive : 0 < limit) (lookup : String → Option String) (name : String) (default : Nat) :
    (∃ n, number lookup name limit default = .ok n ∧ Sets lookup name limit default n) ∨
    ∃ raw fault, number lookup name limit default =
      .error (.invalidConfig (name ++ "=" ++ raw ++ ": " ++ Numeral.Fault.text fault)) ∧
      Offends lookup name limit raw := by
  rw [number]
  cases written : lookup name with
  | none => exact .inl ⟨default, rfl, by rw [Sets, written]⟩
  | some raw =>
    dsimp only
    cases read : Numeral.read limit (Text.trim raw) with
    | ok n =>
      refine .inl ⟨n, rfl, ?_⟩
      rw [Sets, written]
      exact (read_trim_eq_ok_iff positive).mp read
    | error fault =>
      refine .inr ⟨raw, fault, rfl, written, ?_⟩
      rintro ⟨n, spelled⟩
      have accepted := (read_trim_eq_ok_iff positive).mpr spelled
      rw [read] at accepted
      cases accepted

/-- The namespace that is watched is the one that is written, unless that is blank. -/
def Watches (lookup : String → Option String) (ns : Option String) : Prop :=
  ∀ written, ns = some written ↔
    lookup "WATCH_NAMESPACE" = some written ∧ ∃ c ∈ written.toList, Text.isBlank c = false

theorem watches_filter (lookup : String → Option String) :
    Watches lookup ((lookup "WATCH_NAMESPACE").filter fun ns => Text.trim ns ≠ "") := by
  intro written
  rw [Option.filter_eq_some_iff, decide_eq_true_eq, ne_eq, Text.trim_eq_empty_iff]
  simp

theorem ofEnvironment_eq (lookup : String → Option String) : ofEnvironment lookup =
    match number lookup "RECONCILE_CONCURRENCY" UInt16.size 3,
      number lookup "RECONCILE_DEBOUNCE_SECS" UInt64.size 5 with
    | .error e, _ => .error e
    | .ok _, .error e => .error e
    | .ok concurrency, .ok debounce =>
      .ok ⟨(lookup "WATCH_NAMESPACE").filter fun ns => Text.trim ns ≠ "", concurrency, debounce⟩ := by
  rw [ofEnvironment]
  cases number lookup "RECONCILE_CONCURRENCY" UInt16.size 3 with
  | error e => rfl
  | ok concurrency => cases number lookup "RECONCILE_DEBOUNCE_SECS" UInt64.size 5 <;> rfl

/-- An environment is accepted iff both numbers are set to what is a number within its word, or are not set. Then these
are the numbers of the configuration, and the namespace is the one that is written. Otherwise the first variable that
offends is named in the error, together with the text that it is set to. -/
theorem environment_is_read (lookup : String → Option String) :
    ((∃ c, ofEnvironment lookup = .ok c) ↔ (∃ n, Sets lookup "RECONCILE_CONCURRENCY" (2 ^ 16) 3 n) ∧
      ∃ n, Sets lookup "RECONCILE_DEBOUNCE_SECS" (2 ^ 64) 5 n) ∧
    match ofEnvironment lookup with
    | .ok c => Sets lookup "RECONCILE_CONCURRENCY" (2 ^ 16) 3 c.concurrency ∧
        Sets lookup "RECONCILE_DEBOUNCE_SECS" (2 ^ 64) 5 c.debounce ∧ Watches lookup c.namespace_
    | .error e => ∃ raw fault,
        (Offends lookup "RECONCILE_CONCURRENCY" (2 ^ 16) raw ∧
          e = .invalidConfig ("RECONCILE_CONCURRENCY=" ++ raw ++ ": " ++ Numeral.Fault.text fault)) ∨
        ((∃ n, Sets lookup "RECONCILE_CONCURRENCY" (2 ^ 16) 3 n) ∧ Offends lookup "RECONCILE_DEBOUNCE_SECS" (2 ^ 64) raw ∧
          e = .invalidConfig ("RECONCILE_DEBOUNCE_SECS=" ++ raw ++ ": " ++ Numeral.Fault.text fault)) := by
  rw [ofEnvironment_eq]
  rcases number_cases (by decide : 0 < UInt16.size) lookup "RECONCILE_CONCURRENCY" 3 with
    ⟨n, read, sets⟩ | ⟨raw, fault, read, offends⟩ <;> rw [read]
  · rcases number_cases (by decide : 0 < UInt64.size) lookup "RECONCILE_DEBOUNCE_SECS" 5 with
      ⟨n', read', sets'⟩ | ⟨raw, fault, read', offends⟩ <;> rw [read']
    · exact ⟨⟨fun _ => ⟨⟨n, sets⟩, n', sets'⟩, fun _ => ⟨_, rfl⟩⟩, sets, sets', watches_filter lookup⟩
    · exact ⟨⟨nofun, fun both => (offends.not_sets both.2).elim⟩, raw, fault, .inr ⟨⟨n, sets⟩, offends, rfl⟩⟩
  · exact ⟨⟨nofun, fun both => (offends.not_sets both.1).elim⟩, raw, fault, .inl ⟨offends, rfl⟩⟩

example : ofEnvironment (fun name => if name = "WATCH_NAMESPACE" then none else some " -1") =
    .error (.invalidConfig "RECONCILE_CONCURRENCY= -1: invalid digit found in string") := by decide +kernel

end Configuration
end HostedDelivery
