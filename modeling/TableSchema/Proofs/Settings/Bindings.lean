import TableSchema.Proofs.Rule.Arguments
import TableSchema.Proofs.Settings.Variables

namespace TableSchema.EnvFile

open Environment

/-! The last binding of a name -/

theorem lookup_values_put (values : Values) (name : String) (value : Option String)
    (other : String) :
    (values.put name value).lookup other = if other = name then some value else values.lookup other := by
  fun_induction Values.put name value values with
  | case1 =>
      by_cases h : other = name
      · simp [h]
      · simp [h, List.lookup_cons, beq_eq_false_iff_ne.mpr h]
  | case2 old rest =>
      by_cases h : other = name
      · simp [h]
      · simp [h, List.lookup_cons, beq_eq_false_iff_ne.mpr h]
  | case3 another old rest hname ih =>
      by_cases h : other = another
      · subst h
        simp [hname]
      · simp only [List.lookup_cons, beq_eq_false_iff_ne.mpr h, ih]

theorem valuesOf_concat (environment : Environment) (front : List Binding) (binding : Binding) :
    valuesOf environment (front ++ [binding]) =
      (valuesOf environment front).put binding.name
        (binding.value.map (expand environment (valuesOf environment front))) := by
  simp only [valuesOf, List.foldl_append, List.foldl_cons, List.foldl_nil]

theorem lookup_valuesOf_of_last (environment : Environment) {front behind : List Binding}
    {name : String} {text : Option String} (hlast : ∀ binding ∈ behind, binding.name ≠ name) :
    (valuesOf environment (front ++ ⟨name, text⟩ :: behind)).lookup name =
      some (text.map (expand environment (valuesOf environment front))) := by
  induction behind using List.reverseRecOn with
  | nil => rw [valuesOf_concat, lookup_values_put, if_pos rfl]
  | append_singleton behind binding ih =>
      obtain ⟨hbehind, hbinding⟩ := List.forall_mem_append.mp hlast
      have hne := hbinding binding List.mem_cons_self
      rw [← List.cons_append, ← List.append_assoc, valuesOf_concat, lookup_values_put,
        if_neg (Ne.symm hne), ih hbehind]

theorem lookup_valuesOf_of_absent (environment : Environment) {bindings : List Binding}
    {name : String} (habsent : ∀ binding ∈ bindings, binding.name ≠ name) :
    (valuesOf environment bindings).lookup name = none := by
  induction bindings using List.reverseRecOn with
  | nil => rfl
  | append_singleton front binding ih =>
      obtain ⟨hfront, hbinding⟩ := List.forall_mem_append.mp habsent
      have hne := hbinding binding List.mem_cons_self
      rw [valuesOf_concat, lookup_values_put, if_neg (Ne.symm hne), ih hfront]

theorem exists_last_or_absent (bindings : List Binding) (name : String) :
    (∃ front text behind, bindings = front ++ ⟨name, text⟩ :: behind ∧
        ∀ binding ∈ behind, binding.name ≠ name) ∨
      ∀ binding ∈ bindings, binding.name ≠ name := by
  induction bindings with
  | nil => exact .inr nofun
  | cons first bindings ih =>
      rcases ih with ⟨front, text, behind, rfl, hlast⟩ | habsent
      · exact .inl ⟨first :: front, text, behind, rfl, hlast⟩
      · by_cases hname : first.name = name
        · subst hname
          exact .inl ⟨[], first.value, bindings, rfl, habsent⟩
        · exact .inr (List.forall_mem_cons.mpr ⟨hname, habsent⟩)

theorem valuesOf_eq_nil_iff (environment : Environment) (bindings : List Binding) :
    valuesOf environment bindings = [] ↔ bindings = [] := by
  constructor
  · intro hvalues
    rcases List.eq_nil_or_concat bindings with rfl | ⟨front, binding, rfl⟩
    · rfl
    · have hput := lookup_values_put (valuesOf environment front) binding.name
        (binding.value.map (expand environment (valuesOf environment front))) binding.name
      rw [List.concat_eq_append, valuesOf_concat] at hvalues
      rw [hvalues, if_pos rfl] at hput
      cases hput
  · rintro rfl
    rfl

/-! What a variable has -/

-- The value that a variable has with a file: that of the environment, else that of the last
-- binding of its name. References in it are to the environment and to the bindings before.
inductive Takes (environment : Environment) (bindings : List Binding) (name : String) :
    Option String → Prop
  | set {value : String} (h : environment.get? name = some value) :
      Takes environment bindings name (some value)
  | bound {front behind : List Binding} {text : Option String}
      (hunset : environment.get? name = none) (hbindings : bindings = front ++ ⟨name, text⟩ :: behind)
      (hlast : ∀ binding ∈ behind, binding.name ≠ name) :
      Takes environment bindings name
        (text.map (expand environment (valuesOf environment front)))
  | absent (hunset : environment.get? name = none)
      (habsent : ∀ binding ∈ bindings, binding.name ≠ name) : Takes environment bindings name none

theorem takes_iff {environment : Environment} {bindings : List Binding} {name : String}
    {value : Option String} :
    Takes environment bindings name value ↔
      value = (environment.get? name).or ((valuesOf environment bindings).lookup name).join := by
  constructor
  · rintro (h | ⟨hunset, rfl, hlast⟩ | ⟨hunset, habsent⟩)
    · rw [h, Option.some_or]
    · rw [hunset, Option.none_or, lookup_valuesOf_of_last environment hlast, Option.join_some]
    · rw [hunset, Option.none_or, lookup_valuesOf_of_absent environment habsent, Option.join_none]
  · rintro rfl
    cases hunset : environment.get? name with
    | some value => exact .set hunset
    | none =>
        rw [Option.none_or]
        rcases exists_last_or_absent bindings name with ⟨front, text, behind, rfl, hlast⟩ | habsent
        · rw [lookup_valuesOf_of_last environment hlast, Option.join_some]
          exact .bound hunset rfl hlast
        · rw [lookup_valuesOf_of_absent environment habsent, Option.join_none]
          exact .absent hunset habsent

/-! Adding a file to the environment -/

-- What a file gives to a variable that is not set can be its value.
def AllDefinable (environment : Environment) (values : Values) : Prop :=
  ∀ name value, environment.get? name = none → (name, some value) ∈ values → IsDefinable name value

theorem exists_define_iff {environment : Environment} {name value : String} :
    (∃ extended, define environment name value = .ok extended) ↔ IsDefinable name value := by
  constructor
  · rintro ⟨extended, h⟩
    simp only [define] at h
    split at h
    · cases h
    · rename_i hnull
      split at h
      · cases h
      · rename_i hlegal
        simp only [Bool.or_eq_true, not_or, List.contains_iff_mem] at hnull hlegal
        exact ⟨hlegal, hnull.1, hnull.2⟩
  · intro h
    exact ⟨_, define_of_isDefinable h environment⟩

theorem exists_defineEntry_iff {environment : Environment} {name : String}
    {value : Option String} :
    (∃ extended, defineEntry environment (name, value) = .ok extended) ↔
      ∀ text, value = some text → environment.get? name = none → IsDefinable name text := by
  cases value with
  | none => exact iff_of_true ⟨_, rfl⟩ (by simp)
  | some text =>
      simp only [defineEntry, Option.some.injEq, forall_eq']
      cases hfound : environment.get? name with
      | some kept =>
          rw [if_pos (by rw [isSet, hfound, Option.isSome_some])]
          exact iff_of_true ⟨_, rfl⟩ (by simp)
      | none =>
          rw [if_neg (by simp [isSet, hfound]), exists_define_iff]
          exact ⟨fun h _ => h, fun h => h rfl⟩

-- One entry: its variable has a value from then on, and the others are as they were.
theorem get?_of_defineEntry {environment extended : Environment} {name : String}
    {value : Option String} (h : defineEntry environment (name, value) = .ok extended)
    (other : String) :
    extended.get? other = (environment.get? other).or (if other = name then value else none) := by
  cases value with
  | none =>
      obtain rfl := Except.ok.inj h
      rw [ite_self, Option.or_none]
  | some text =>
      simp only [defineEntry] at h
      by_cases hset : environment.isSet name = true
      · rw [if_pos hset] at h
        obtain rfl := Except.ok.inj h
        by_cases hother : other = name
        · subst hother
          obtain ⟨kept, hkept⟩ := Option.isSome_iff_exists.mp hset
          rw [hkept, Option.some_or]
        · rw [if_neg hother, Option.or_none]
      · rw [if_neg hset] at h
        rw [define_of_isDefinable (exists_define_iff.mp ⟨_, h⟩)] at h
        obtain rfl := Except.ok.inj h
        rw [get?_add]

theorem get?_of_defineAll {environment extended : Environment} {values : Values}
    (hnodup : (values.map Prod.fst).Nodup) (h : defineAll environment values = .ok extended)
    (other : String) :
    extended.get? other = (environment.get? other).or (values.lookup other).join := by
  induction values generalizing environment with
  | nil =>
      obtain rfl := Except.ok.inj h
      rw [List.lookup_nil, Option.join_none, Option.or_none]
  | cons entry rest ih =>
      obtain ⟨name, value⟩ := entry
      obtain ⟨hfirst, hrest⟩ := List.nodup_cons.mp hnodup
      rw [defineAll_cons, bind_eq_ok_iff] at h
      obtain ⟨middle, hmiddle, h⟩ := h
      rw [ih hrest h, get?_of_defineEntry hmiddle, Option.or_assoc]
      by_cases hother : other = name
      · subst hother
        have hnone : rest.lookup other = none := by
          rw [List.lookup_eq_none_iff]
          intro entry hentry
          rw [bne_iff_ne]
          rintro rfl
          exact hfirst (List.mem_map.mpr ⟨entry, hentry, rfl⟩)
        simp [hnone]
      · simp [hother, List.lookup_cons, beq_eq_false_iff_ne.mpr hother]

-- What is added for an entry is no variable of the others.
theorem allDefinable_iff_of_defineEntry {environment extended : Environment} {name : String}
    {value : Option String} {rest : Values} (hfirst : name ∉ rest.map Prod.fst)
    (h : defineEntry environment (name, value) = .ok extended) :
    AllDefinable extended rest ↔ AllDefinable environment rest := by
  have hget : ∀ other text, (other, some text) ∈ rest →
      extended.get? other = environment.get? other := by
    intro other text hm
    have hne : other ≠ name := by
      rintro rfl
      exact hfirst (List.mem_map.mpr ⟨_, hm, rfl⟩)
    rw [get?_of_defineEntry h, if_neg hne, Option.or_none]
  refine forall_congr' fun other => forall_congr' fun text => ?_
  exact ⟨fun h hnone hm => h ((hget other text hm).trans hnone) hm,
    fun h hnone hm => h ((hget other text hm).symm.trans hnone) hm⟩

theorem allDefinable_cons_iff {environment : Environment} {name : String} {value : Option String}
    {rest : Values} :
    AllDefinable environment ((name, value) :: rest) ↔
      (∃ extended, defineEntry environment (name, value) = .ok extended) ∧
        AllDefinable environment rest := by
  rw [exists_defineEntry_iff]
  constructor
  · intro h
    refine ⟨?_, fun other text hnone hm => h other text hnone (List.mem_cons_of_mem _ hm)⟩
    rintro text rfl hnone
    exact h name text hnone List.mem_cons_self
  · rintro ⟨hentry, hrest⟩ other text hnone hm
    rcases List.mem_cons.mp hm with heq | hm
    · obtain ⟨rfl, rfl⟩ := Prod.mk.inj heq
      exact hentry text rfl hnone
    · exact hrest other text hnone hm

theorem exists_defineAll_iff {environment : Environment} {values : Values}
    (hnodup : (values.map Prod.fst).Nodup) :
    (∃ extended, defineAll environment values = .ok extended) ↔
      AllDefinable environment values := by
  induction values generalizing environment with
  | nil => exact iff_of_true ⟨_, rfl⟩ nofun
  | cons entry rest ih =>
      obtain ⟨name, value⟩ := entry
      obtain ⟨hfirst, hrest⟩ := List.nodup_cons.mp hnodup
      rw [defineAll_cons, allDefinable_cons_iff]
      simp only [bind_eq_ok_iff]
      constructor
      · rintro ⟨extended, middle, hmiddle, hextended⟩
        have hmiddles := (ih hrest).mp ⟨extended, hextended⟩
        exact ⟨⟨middle, hmiddle⟩, (allDefinable_iff_of_defineEntry hfirst hmiddle).mp hmiddles⟩
      · rintro ⟨⟨middle, hmiddle⟩, h⟩
        obtain ⟨extended, hextended⟩ :=
          (ih hrest).mpr ((allDefinable_iff_of_defineEntry hfirst hmiddle).mpr h)
        exact ⟨extended, middle, hmiddle, hextended⟩

-- A file whose values can be added to an environment: each variable that it gives a value to can
-- have it.
def IsLoadable (environment : Environment) (bindings : List Binding) : Prop :=
  ∀ name value, environment.get? name = none → Takes environment bindings name (some value) →
    IsDefinable name value

theorem exists_defineAll_iff_isLoadable {environment : Environment} {bindings : List Binding} :
    (∃ extended, defineAll environment (valuesOf environment bindings) = .ok extended) ↔
      IsLoadable environment bindings := by
  have hnodup := nodup_names_valuesOf environment bindings
  rw [exists_defineAll_iff hnodup]
  refine forall_congr' fun name => forall_congr' fun value => forall_congr' fun hnone => ?_
  have htakes : Takes environment bindings name (some value) ↔
      (name, some value) ∈ valuesOf environment bindings := by
    rw [takes_iff, hnone, Option.none_or, eq_comm, Option.join_eq_some_iff]
    constructor
    · intro hlookup
      obtain ⟨front, behind, heq, -⟩ := List.lookup_eq_some_iff.mp hlookup
      simp [heq]
    · exact lookup_eq_of_mem hnodup
  rw [htakes]

end TableSchema.EnvFile
