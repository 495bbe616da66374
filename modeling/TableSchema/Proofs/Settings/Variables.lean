import Mathlib
import TableSchema.EnvFile

namespace TableSchema

/-! Environments that differ in a variable -/

namespace Environment

theorem get?_put_of_ne {environment : Environment} {name other : String} (value : String)
    (h : other ≠ name) : (environment.put name value).get? other = environment.get? other := by
  have hname : (other == name) = false := beq_eq_false_iff_ne.mpr h
  simp only [get?, put, List.lookup_cons, hname]

theorem get?_add (environment : Environment) (name value other : String) :
    (environment.add name value).get? other =
      (environment.get? other).or (if other = name then some value else none) := by
  simp only [get?, add, List.lookup_append]
  by_cases h : other = name
  · simp [h]
  · simp [h, List.lookup_cons, beq_eq_false_iff_ne.mpr h]

-- The second environment has a variable set to a value, and is as the first one otherwise.
structure IsPut (name value : String) (first second : Environment) : Prop where
  value_eq : second.get? name = some value
  others : ∀ other, other ≠ name → second.get? other = first.get? other

theorem isPut_put (environment : Environment) (name value : String) :
    IsPut name value environment (environment.put name value) :=
  ⟨environment.get?_put name value, fun _ => get?_put_of_ne value⟩

namespace IsPut

variable {name value : String} {first second : Environment}

theorem isSet_eq (h : IsPut name value first second) {other : String} (hother : other ≠ name) :
    second.isSet other = first.isSet other := by
  rw [isSet, isSet, h.others other hother]

-- The variable itself may be added to the first environment.
theorem add_left (h : IsPut name value first second) (bound : String) :
    IsPut name value (first.add name bound) second := by
  refine ⟨h.value_eq, fun other hother => ?_⟩
  rw [get?_add, if_neg hother, Option.or_none, h.others other hother]

theorem add (h : IsPut name value first second) (other bound : String) :
    IsPut name value (first.add other bound) (second.add other bound) := by
  constructor
  · rw [get?_add, h.value_eq, Option.some_or]
  · intro another hanother
    rw [get?_add, get?_add, h.others another hanother]

end IsPut

end Environment

namespace EnvFile

open Environment

/-! Values without a reference to the variable -/

theorem expandFrom_congr {meaning meaning' : Reference → String} {skip : Nat} {cs : List Char}
    (h : ∀ reference ∈ referencesFrom skip cs, meaning' reference = meaning reference) :
    expandFrom meaning' skip cs = expandFrom meaning skip cs := by
  induction cs generalizing skip with
  | nil => rfl
  | cons c rest ih =>
      cases skip with
      | succ skip => exact ih h
      | zero =>
          cases hr : reference? (c :: rest) with
          | none =>
              simp only [referencesFrom, hr] at h
              simp only [expandFrom, hr, ih h]
          | some reference =>
              simp only [referencesFrom, hr] at h
              obtain ⟨hfirst, hrest⟩ := List.forall_mem_cons.mp h
              simp only [expandFrom, hr, hfirst, ih hrest]

-- The value of a binding takes that of a variable into itself.
def Binding.RefersTo (binding : Binding) (name : String) : Prop :=
  ∃ reference ∈ referencesFrom 0 (binding.value.getD "").toList, reference.name = name

theorem valuesOf_eq_of_isPut {name value : String} {first second : Environment}
    (h : IsPut name value first second) {bindings : List Binding}
    (hfree : ∀ binding ∈ bindings, ¬binding.RefersTo name) :
    valuesOf second bindings = valuesOf first bindings := by
  refine List.foldl_ext _ _ _ fun values binding hm => ?_
  cases hvalue : binding.value with
  | none => rfl
  | some text =>
      have hexpand : expand second values text = expand first values text := by
        rw [expand, expand, expandFrom_congr]
        intro reference hreference
        have hname : reference.name ≠ name := by
          intro hname
          refine hfree binding hm ⟨reference, ?_, hname⟩
          rwa [hvalue]
        rw [meaningOf, meaningOf, h.others _ hname]
      rw [Option.map_some, Option.map_some, hexpand]

/-! Names of values -/

theorem mem_names_put {name other : String} {value : Option String} {values : Values}
    (h : other ∈ (values.put name value).map Prod.fst) :
    other = name ∨ other ∈ values.map Prod.fst := by
  fun_induction Values.put name value values with
  | case1 => simpa using h
  | case2 old rest =>
      rcases List.mem_cons.mp h with rfl | h
      · exact .inl rfl
      · exact .inr (List.mem_cons_of_mem _ h)
  | case3 another old rest hname ih =>
      rcases List.mem_cons.mp h with rfl | h
      · exact .inr List.mem_cons_self
      · exact (ih h).imp id (List.mem_cons_of_mem _)

theorem nodup_names_put (name : String) (value : Option String) {values : Values}
    (h : (values.map Prod.fst).Nodup) : ((values.put name value).map Prod.fst).Nodup := by
  fun_induction Values.put name value values with
  | case1 => exact List.nodup_singleton _
  | case2 old rest => exact h
  | case3 another old rest hname ih =>
      obtain ⟨hfirst, hrest⟩ := List.nodup_cons.mp h
      refine List.nodup_cons.mpr ⟨fun hm => ?_, ih hrest⟩
      rcases mem_names_put hm with heq | hm
      · exact hname heq
      · exact hfirst hm

-- No name has two values.
theorem nodup_names_valuesOf (environment : Environment) (bindings : List Binding) :
    ((valuesOf environment bindings).map Prod.fst).Nodup := by
  rw [valuesOf]
  generalize hstart : ([] : Values) = values
  have hvalues : (values.map Prod.fst).Nodup := by
    rw [← hstart]
    exact List.nodup_nil
  clear hstart
  induction bindings generalizing values with
  | nil => exact hvalues
  | cons binding bindings ih => exact ih _ (nodup_names_put _ _ hvalues)

theorem lookup_eq_of_mem {name : String} {value : Option String} {values : Values}
    (hnodup : (values.map Prod.fst).Nodup) (h : (name, value) ∈ values) :
    values.lookup name = some value := by
  induction values with
  | nil => cases h
  | cons entry values ih =>
      obtain ⟨hfirst, hrest⟩ := List.nodup_cons.mp hnodup
      rcases List.mem_cons.mp h with rfl | h
      · exact List.lookup_cons_self
      · have hname : (name == entry.1) = false := by
          rw [beq_eq_false_iff_ne]
          rintro rfl
          exact hfirst (List.mem_map.mpr ⟨_, h, rfl⟩)
        rw [List.lookup_cons, hname]
        exact ih hrest h

/-! Adding a file to both environments -/

-- A name that a variable can have, and a text that it can hold.
structure IsDefinable (name value : String) : Prop where
  legal : '=' ∉ name.toList
  name_free : '\x00' ∉ name.toList
  value_free : '\x00' ∉ value.toList

theorem define_of_isDefinable {name value : String} (h : IsDefinable name value)
    (environment : Environment) : define environment name value = .ok (environment.add name value) := by
  rw [define, if_neg (by simp [h.name_free, h.value_free]), if_neg (by simp [h.legal])]

-- Whether a variable can be set does not depend on the others.
theorem define_cases (name value : String) :
    (∃ fault, ∀ environment, define environment name value = .error fault) ∨
      ∀ environment, define environment name value = .ok (environment.add name value) := by
  by_cases hnull : (name.toList.contains '\x00' || value.toList.contains '\x00') = true
  · exact .inl ⟨.nullCharacter, fun _ => if_pos hnull⟩
  · by_cases hname : name.toList.contains '=' = true
    · exact .inl ⟨.illegalName, fun _ => by rw [define, if_neg hnull, if_pos hname]⟩
    · exact .inr fun _ => by rw [define, if_neg hnull, if_neg hname]

-- One entry of the values.
def defineEntry (environment : Environment) : String × Option String → Except Fault Environment
  | (_, none) => .ok environment
  | (name, some value) =>
    if environment.isSet name then .ok environment else define environment name value

theorem defineAll_cons (environment : Environment) (entry : String × Option String)
    (values : Values) :
    defineAll environment (entry :: values) =
      defineEntry environment entry >>= fun extended => defineAll extended values := by
  obtain ⟨name, _ | value⟩ := entry
  · rfl
  · simp only [defineAll, defineEntry]
    split <;> rfl

-- The same reason not to go on, or related results.
inductive Alike {α β : Type} (R : α → β → Prop) : Except Fault α → Except Fault β → Prop
  | error (fault : Fault) : Alike R (.error fault) (.error fault)
  | ok {a : α} {b : β} (h : R a b) : Alike R (.ok a) (.ok b)

theorem Alike.bind {α β γ δ : Type} {R : α → β → Prop} {S : γ → δ → Prop}
    {first : Except Fault α} {second : Except Fault β} {next : α → Except Fault γ}
    {next' : β → Except Fault δ} (h : Alike R first second)
    (hnext : ∀ a b, R a b → Alike S (next a) (next' b)) :
    Alike S (first >>= next) (second >>= next') := by
  cases h with
  | error fault => exact .error fault
  | ok h => exact hnext _ _ h

section

variable {P : String → Prop} {name value : String} {first second : Environment}

-- The variable is set in the second environment, and a value that it has in the first one is
-- as wanted.
structure IsPutOver (P : String → Prop) (name value : String) (first second : Environment) : Prop
    extends IsPut name value first second where
  wanted : ∀ bound, first.get? name = some bound → P bound

-- An entry for the variable itself adds it to the first environment, if it is missing there,
-- and nothing to the second one.
theorem defineEntry_name_alike (hP : ∀ bound, P bound → IsDefinable name bound)
    (h : IsPutOver P name value first second) {bound : String}
    (hbound : first.get? name = none → P bound) :
    Alike (fun first' second' => IsPutOver P name value first' second' ∧
        (first'.get? name = none → first.get? name = none))
      (defineEntry first (name, some bound)) (defineEntry second (name, some bound)) := by
  have hset : second.isSet name = true := by rw [isSet, h.value_eq, Option.isSome_some]
  simp only [defineEntry]
  rw [if_pos hset]
  cases hfound : first.get? name with
  | some kept =>
      have hset' : first.isSet name = true := by rw [isSet, hfound, Option.isSome_some]
      rw [if_pos hset']
      exact .ok ⟨h, fun hnone => absurd (hfound.symm.trans hnone) nofun⟩
  | none =>
      have hunset : ¬first.isSet name = true := by simp [isSet, hfound]
      have hadd : (first.add name bound).get? name = some bound := by
        rw [get?_add, hfound, if_pos rfl, Option.none_or]
      rw [if_neg hunset, define_of_isDefinable (hP bound (hbound hfound))]
      refine .ok ⟨⟨h.add_left bound, fun found hf => ?_⟩, fun _ => rfl⟩
      obtain rfl := Option.some.inj (hadd.symm.trans hf)
      exact hbound hfound

-- Any other entry does the same to both.
theorem defineEntry_alike_of_ne (h : IsPutOver P name value first second) {other : String}
    (hother : other ≠ name) (bound : String) :
    Alike (fun first' second' => IsPutOver P name value first' second' ∧
        (first'.get? name = none → first.get? name = none))
      (defineEntry first (other, some bound)) (defineEntry second (other, some bound)) := by
  simp only [defineEntry]
  rw [h.isSet_eq hother]
  by_cases hset : first.isSet other = true
  · rw [if_pos hset, if_pos hset]
    exact .ok ⟨h, id⟩
  · rw [if_neg hset, if_neg hset]
    have hkeep : (first.add other bound).get? name = first.get? name := by
      rw [get?_add, if_neg (Ne.symm hother), Option.or_none]
    rcases define_cases other bound with ⟨fault, hfault⟩ | hdefine
    · rw [hfault, hfault]
      exact .error fault
    · rw [hdefine, hdefine]
      refine .ok ⟨⟨h.add other bound, fun found hf => ?_⟩, fun hnone => ?_⟩
      · exact h.wanted found (hkeep ▸ hf)
      · rwa [hkeep] at hnone

theorem defineEntry_alike (hP : ∀ bound, P bound → IsDefinable name bound)
    (h : IsPutOver P name value first second) {entry : String × Option String}
    (hentry : first.get? name = none → ∀ bound, entry = (name, some bound) → P bound) :
    Alike (fun first' second' => IsPutOver P name value first' second' ∧
        (first'.get? name = none → first.get? name = none))
      (defineEntry first entry) (defineEntry second entry) := by
  obtain ⟨other, _ | bound⟩ := entry
  · exact .ok ⟨h, id⟩
  · by_cases hother : other = name
    · subst hother
      exact defineEntry_name_alike hP h fun hnone => hentry hnone bound rfl
    · exact defineEntry_alike_of_ne h hother bound

-- What a file adds to the one environment it adds to the other.
theorem defineAll_alike (hP : ∀ bound, P bound → IsDefinable name bound)
    (h : IsPutOver P name value first second) {values : Values}
    (hvalues : first.get? name = none → ∀ bound, (name, some bound) ∈ values → P bound) :
    Alike (IsPutOver P name value) (defineAll first values) (defineAll second values) := by
  induction values generalizing first second with
  | nil => exact .ok h
  | cons entry rest ih =>
      rw [defineAll_cons, defineAll_cons]
      refine (defineEntry_alike hP h fun hnone bound hentry => ?_).bind ?_
      · exact hvalues hnone bound (hentry ▸ List.mem_cons_self)
      · rintro first' second' ⟨hput, hnone⟩
        exact ih hput fun hnone' bound hm =>
          hvalues (hnone hnone') bound (List.mem_cons_of_mem _ hm)

end

end EnvFile

end TableSchema
