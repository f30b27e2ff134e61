/-!
# Finite maps from names

A map is the list of its entries with strictly increasing names, so two maps that
answer every look-up alike are the same map.  Names are ordered by code point,
which is also the order of their bytes in UTF-8.

A set of names is a map to the unit type.

**Results.**
* `ext_get?`: a map is determined by its look-ups.
* `get?_insert`: an insertion changes the look-up of its own name alone.
* `get?_mergeNew`: merging keeps what is there and adds what is new.
* `foldl_insertNew_of_perm`: merging may visit the entries in any order.
* `names_pairwise`, `mem_names_iff`: the names are listed once each, in order.
* `find?_names_eq_some_iff`: the first of the names that is found is the least.
-/

namespace KernelLaunch

universe u

section Entries

variable {α : Type u}

/-- The value stored under a name in a list of entries. -/
def findEntry (name : String) : List (String × α) → Option α
  | [] => none
  | (n, a) :: es => if n = name then some a else findEntry name es

/-- Stores a value under a name in a list of entries with increasing names. -/
def insertEntry (name : String) (value : α) : List (String × α) → List (String × α)
  | [] => [(name, value)]
  | (n, a) :: es =>
      if name < n then (name, value) :: (n, a) :: es
      else if n < name then (n, a) :: insertEntry name value es
      else (name, value) :: es

/-- Names of entries increase strictly. -/
abbrev Increasing (es : List (String × α)) : Prop :=
  es.Pairwise fun d e => d.1 < e.1

theorem name_eq_of_not_lt {m n : String} (h : ¬m < n) (h' : ¬n < m) : m = n :=
  String.le_antisymm (String.not_lt.1 h') (String.not_lt.1 h)

theorem mem_insertEntry
    {name : String}
    {value : α}
    {es : List (String × α)}
    {e : String × α}
    (h : e ∈ insertEntry name value es) :
    e = (name, value) ∨ e ∈ es := by
  induction es with
  | nil => exact Or.inl (by simpa [insertEntry] using h)
  | cons d es ih =>
      obtain ⟨n, a⟩ := d
      unfold insertEntry at h
      split at h
      · exact List.mem_cons.1 h
      · split at h
        · rcases List.mem_cons.1 h with rfl | h
          · exact Or.inr (by simp)
          · rcases ih h with h | h
            · exact Or.inl h
            · exact Or.inr (by simp [h])
        · rcases List.mem_cons.1 h with h | h
          · exact Or.inl h
          · exact Or.inr (by simp [h])

theorem increasing_insertEntry
    (name : String)
    (value : α)
    {es : List (String × α)}
    (h : Increasing es) :
    Increasing (insertEntry name value es) := by
  induction es with
  | nil => simp [insertEntry]
  | cons d es ih =>
      obtain ⟨n, a⟩ := d
      obtain ⟨hhead, htail⟩ := List.pairwise_cons.1 h
      unfold insertEntry
      split
      · rename_i hlt
        refine List.pairwise_cons.2 ⟨?_, h⟩
        intro e he
        rcases List.mem_cons.1 he with rfl | he
        · exact hlt
        · exact String.lt_trans hlt (hhead e he)
      · split
        · rename_i hlt
          refine List.pairwise_cons.2 ⟨?_, ih htail⟩
          intro e he
          rcases mem_insertEntry he with rfl | he
          · exact hlt
          · exact hhead e he
        · rename_i hnlt hnlt'
          refine List.pairwise_cons.2 ⟨?_, htail⟩
          intro e he
          rw [name_eq_of_not_lt hnlt hnlt']
          exact hhead e he

theorem findEntry_insertEntry (name other : String) (value : α) (es : List (String × α)) :
    findEntry other (insertEntry name value es) =
      if name = other then some value else findEntry other es := by
  induction es with
  | nil => simp [insertEntry, findEntry]
  | cons d es ih =>
      obtain ⟨n, a⟩ := d
      unfold insertEntry
      split
      · simp [findEntry]
      · split
        · rename_i hlt
          simp only [findEntry, ih]
          by_cases hn : n = other
          · have hne : ¬name = other := by
              rintro rfl
              exact String.lt_irrefl _ (hn ▸ hlt)
            simp [hn, hne]
          · simp [hn]
        · rename_i hnlt hnlt'
          have hsame : name = n := name_eq_of_not_lt hnlt hnlt'
          subst hsame
          by_cases hn : name = other
          · simp [findEntry, hn]
          · simp [findEntry, hn]

theorem findEntry_eq_none_of_lt
    {name : String}
    {es : List (String × α)}
    (h : ∀ e ∈ es, name < e.1) :
    findEntry name es = none := by
  induction es with
  | nil => rfl
  | cons d es ih =>
      obtain ⟨n, a⟩ := d
      have hne : ¬n = name := by
        rintro rfl
        exact String.lt_irrefl _ (h (n, a) (by simp))
      rw [findEntry, if_neg hne]
      exact ih fun e he => h e (by simp [he])

theorem findEntry_append (name : String) (es fs : List (String × α)) :
    findEntry name (es ++ fs) = (findEntry name es).or (findEntry name fs) := by
  induction es with
  | nil => simp [findEntry]
  | cons d es ih =>
      obtain ⟨n, a⟩ := d
      by_cases hn : n = name <;> simp [findEntry, hn, ih]

theorem findEntry_eq_none_iff {name : String} {es : List (String × α)} :
    findEntry name es = none ↔ ∀ e ∈ es, e.1 ≠ name := by
  induction es with
  | nil => simp [findEntry]
  | cons d es ih =>
      obtain ⟨n, a⟩ := d
      by_cases hn : n = name <;> simp [findEntry, hn, ih]

/-- The entry that is found is the first one with the name. -/
theorem findEntry_eq_some_iff_first {name : String} {value : α} {es : List (String × α)} :
    findEntry name es = some value ↔
      ∃ before after, es = before ++ (name, value) :: after ∧ ∀ e ∈ before, e.1 ≠ name := by
  constructor
  · intro h
    induction es with
    | nil => simp [findEntry] at h
    | cons d es ih =>
        obtain ⟨n, a⟩ := d
        by_cases hn : n = name
        · subst hn
          obtain rfl : a = value := by simpa [findEntry] using h
          exact ⟨[], es, rfl, by simp⟩
        · obtain ⟨before, after, rfl, hbefore⟩ := ih (by simpa [findEntry, hn] using h)
          exact ⟨(n, a) :: before, after, rfl, by simpa [hn] using hbefore⟩
  · rintro ⟨before, after, rfl, hbefore⟩
    simp [findEntry_append, findEntry_eq_none_iff.2 hbefore, findEntry]

theorem findEntry_eq_some_iff
    {name : String}
    {value : α}
    {es : List (String × α)}
    (h : Increasing es) :
    findEntry name es = some value ↔ (name, value) ∈ es := by
  induction es with
  | nil => simp [findEntry]
  | cons d es ih =>
      obtain ⟨n, a⟩ := d
      obtain ⟨hhead, htail⟩ := List.pairwise_cons.1 h
      by_cases hn : n = name
      · subst hn
        simp only [findEntry, if_true, Option.some.injEq, List.mem_cons, Prod.mk.injEq,
          true_and]
        constructor
        · exact fun h => Or.inl h.symm
        · rintro (h | h)
          · exact h.symm
          · exact absurd (hhead _ h) (String.lt_irrefl _)
      · have hn' : ¬name = n := fun e => hn e.symm
        simp [findEntry, hn, hn', ih htail]

theorem entries_ext
    {es fs : List (String × α)}
    (hes : Increasing es)
    (hfs : Increasing fs)
    (h : ∀ name, findEntry name es = findEntry name fs) :
    es = fs := by
  induction es generalizing fs with
  | nil =>
      cases fs with
      | nil => rfl
      | cons e fs => simpa [findEntry] using h e.1
  | cons d es ih =>
      obtain ⟨n, a⟩ := d
      obtain ⟨hdhead, hdtail⟩ := List.pairwise_cons.1 hes
      cases fs with
      | nil => simpa [findEntry] using h n
      | cons e fs =>
          obtain ⟨m, b⟩ := e
          obtain ⟨hehead, hetail⟩ := List.pairwise_cons.1 hfs
          have hmn : m = n := by
            apply name_eq_of_not_lt
            · intro hlt
              have hnone : findEntry m ((n, a) :: es) = none := by
                apply findEntry_eq_none_of_lt
                intro e he
                rcases List.mem_cons.1 he with rfl | he
                · exact hlt
                · exact String.lt_trans hlt (hdhead e he)
              rw [h m] at hnone
              simp [findEntry] at hnone
            · intro hlt
              have hnone : findEntry n ((m, b) :: fs) = none := by
                apply findEntry_eq_none_of_lt
                intro e he
                rcases List.mem_cons.1 he with rfl | he
                · exact hlt
                · exact String.lt_trans hlt (hehead e he)
              rw [← h n] at hnone
              simp [findEntry] at hnone
          subst hmn
          have hab : a = b := by
            have hm := h m
            simpa [findEntry] using hm
          have htail : es = fs := by
            apply ih hdtail hetail
            intro name
            by_cases hname : m = name
            · subst hname
              rw [findEntry_eq_none_of_lt hdhead, findEntry_eq_none_of_lt hehead]
            · have hm := h name
              simpa [findEntry, hname] using hm
          rw [hab, htail]

end Entries

/-- A finite map from names. -/
structure NameMap (α : Type u) where
  entries : List (String × α)
  increasing : Increasing entries
  deriving DecidableEq

namespace NameMap

section Operations

variable {α : Type u}

def empty : NameMap α := ⟨[], List.Pairwise.nil⟩

instance : EmptyCollection (NameMap α) := ⟨empty⟩

instance : Inhabited (NameMap α) := ⟨empty⟩

/-- The value stored under a name. -/
def get? (m : NameMap α) (name : String) : Option α :=
  findEntry name m.entries

/-- Whether something is stored under a name. -/
def contains (m : NameMap α) (name : String) : Bool :=
  (m.get? name).isSome

/-- Stores a value under a name, in place of what was stored there. -/
def insert (m : NameMap α) (name : String) (value : α) : NameMap α :=
  ⟨insertEntry name value m.entries, increasing_insertEntry name value m.increasing⟩

/-- Stores a value under a name unless something is stored there. -/
def insertNew (m : NameMap α) (name : String) (value : α) : NameMap α :=
  if m.contains name then m else m.insert name value

/-- The map of a list of entries; of entries with the same name the last one counts. -/
def ofList (es : List (String × α)) : NameMap α :=
  es.foldl (fun m e => m.insert e.1 e.2) empty

def single (name : String) (value : α) : NameMap α :=
  empty.insert name value

/-- Adds those entries of `g` whose names are new. -/
def mergeNew (m g : NameMap α) : NameMap α :=
  g.entries.foldl (fun m e => m.insertNew e.1 e.2) m

def names (m : NameMap α) : List String :=
  m.entries.map Prod.fst

def size (m : NameMap α) : Nat := m.entries.length

def isEmpty (m : NameMap α) : Bool := m.entries.isEmpty

end Operations

section Lemmas

variable {α : Type u}

@[simp] theorem get?_empty (name : String) : (empty : NameMap α).get? name = none := rfl

/-- A map is determined by its look-ups. -/
theorem ext_get? {m n : NameMap α} (h : ∀ name, m.get? name = n.get? name) : m = n := by
  obtain ⟨es, hes⟩ := m
  obtain ⟨fs, hfs⟩ := n
  have heq : es = fs := entries_ext hes hfs h
  subst heq
  rfl

/-- An insertion changes the look-up of its own name alone. -/
@[simp] theorem get?_insert (m : NameMap α) (name other : String) (value : α) :
    (m.insert name value).get? other =
      if name = other then some value else m.get? other :=
  findEntry_insertEntry name other value m.entries

@[simp] theorem get?_insertNew (m : NameMap α) (name other : String) (value : α) :
    (m.insertNew name value).get? other =
      if name = other then some ((m.get? other).getD value) else m.get? other := by
  unfold insertNew contains
  by_cases hname : name = other
  · subst hname
    cases hm : m.get? name with
    | none => simp
    | some a => simp [hm]
  · split <;> simp [hname]

@[simp] theorem get?_single (name other : String) (value : α) :
    (single name value).get? other = if name = other then some value else none :=
  get?_insert empty name other value

theorem get?_eq_some_iff {m : NameMap α} {name : String} {value : α} :
    m.get? name = some value ↔ (name, value) ∈ m.entries :=
  findEntry_eq_some_iff m.increasing

private theorem get?_foldl_insertNew (es : List (String × α)) (m : NameMap α) (name : String) :
    (es.foldl (fun m e => m.insertNew e.1 e.2) m).get? name =
      (m.get? name).or (findEntry name es) := by
  induction es generalizing m with
  | nil => simp [findEntry]
  | cons d es ih =>
      obtain ⟨n, a⟩ := d
      rw [List.foldl_cons, ih, get?_insertNew]
      by_cases hn : n = name
      · subst hn
        cases m.get? n <;> simp [findEntry]
      · simp [findEntry, hn]

/-- Merging keeps what is there and adds what is new. -/
@[simp] theorem get?_mergeNew (m g : NameMap α) (name : String) :
    (m.mergeNew g).get? name = (m.get? name).or (g.get? name) :=
  get?_foldl_insertNew g.entries m name

/-- Values for different names can be stored in either order. -/
theorem insertNew_comm (m : NameMap α) {n p : String} (h : n ≠ p) (x y : α) :
    (m.insertNew n x).insertNew p y = (m.insertNew p y).insertNew n x := by
  apply ext_get?
  intro name
  simp only [get?_insertNew]
  by_cases hn : n = name
  · have hp : ¬p = name := fun e => h (hn.trans e.symm)
    simp [hn, hp]
  · simp [hn]

/-- A name has one entry. -/
theorem eq_of_mem_entries
    {m : NameMap α}
    {d e : String × α}
    (hd : d ∈ m.entries)
    (he : e ∈ m.entries)
    (h : d.1 = e.1) :
    d = e := by
  have hvalue : m.get? d.1 = some d.2 := get?_eq_some_iff.2 hd
  rw [h, get?_eq_some_iff.2 he] at hvalue
  exact Prod.ext h (Option.some.inj hvalue).symm

/-- Merging may visit the entries in any order. -/
theorem foldl_insertNew_of_perm
    {g : NameMap α}
    {es : List (String × α)}
    (h : es.Perm g.entries)
    (m : NameMap α) :
    es.foldl (fun m e => m.insertNew e.1 e.2) m = m.mergeNew g := by
  -- Two entries with one name are the same, and any others can be stored in either order.
  refine h.foldl_eq' (fun d hd e he m => ?_) m
  by_cases hname : d.1 = e.1
  · rw [eq_of_mem_entries (h.mem_iff.1 hd) (h.mem_iff.1 he) hname]
  · exact m.insertNew_comm hname _ _

theorem contains_eq_true_iff {m : NameMap α} {name : String} :
    m.contains name = true ↔ ∃ value, m.get? name = some value := by
  simp [contains, Option.isSome_iff_exists]

/-- The names are listed once each, in increasing order. -/
theorem names_pairwise (m : NameMap α) : m.names.Pairwise (· < ·) :=
  List.pairwise_map.2 m.increasing

theorem nodup_names (m : NameMap α) : m.names.Nodup := by
  refine m.names_pairwise.imp ?_
  rintro name _ hlt rfl
  exact String.lt_irrefl name hlt

/-- The names listed are those under which something is stored. -/
theorem mem_names_iff {m : NameMap α} {name : String} :
    name ∈ m.names ↔ m.contains name = true := by
  rw [contains_eq_true_iff]
  simp only [names, List.mem_map, Prod.exists, exists_and_right, exists_eq_right]
  exact ⟨fun ⟨a, h⟩ => ⟨a, get?_eq_some_iff.2 h⟩, fun ⟨a, h⟩ => ⟨a, get?_eq_some_iff.1 h⟩⟩

/-- The first of the names that is found is the least. -/
theorem find?_names_eq_some_iff {m : NameMap α} {p : String → Bool} {name : String} :
    m.names.find? p = some name ↔
      (m.contains name = true ∧ p name = true) ∧
        ∀ n, m.contains n = true → p n = true → n = name ∨ name < n := by
  simp only [← mem_names_iff]
  have hsorted := m.names_pairwise
  rw [List.find?_eq_some_iff_append]
  constructor
  · rintro ⟨hp, before, after, hsplit, hbefore⟩
    rw [hsplit] at hsorted ⊢
    refine ⟨⟨by simp, hp⟩, fun n hn hpn => ?_⟩
    rcases List.mem_append.1 hn with hn | hn
    · have hnot := hbefore n hn
      simp [hpn] at hnot
    · rcases List.mem_cons.1 hn with rfl | hn
      · exact .inl rfl
      · exact .inr ((List.pairwise_cons.1 (List.pairwise_append.1 hsorted).2.1).1 n hn)
  · rintro ⟨⟨hmem, hp⟩, hleast⟩
    obtain ⟨before, after, hsplit⟩ := List.append_of_mem hmem
    refine ⟨hp, before, after, hsplit, fun n hn => ?_⟩
    rw [hsplit] at hsorted hleast
    have hlt : n < name := (List.pairwise_append.1 hsorted).2.2 n hn name (by simp)
    cases hpn : p n with
    | false => rfl
    | true =>
        rcases hleast n (by simp [hn]) hpn with rfl | hgt
        · exact absurd hlt (String.lt_irrefl n)
        · exact absurd (String.lt_trans hlt hgt) (String.lt_irrefl n)

theorem isEmpty_eq_true_iff {m : NameMap α} :
    m.isEmpty = true ↔ ∀ name, m.get? name = none := by
  constructor
  · intro h name
    have hnil : m.entries = [] := List.isEmpty_iff.1 h
    simp [get?, hnil, findEntry]
  · intro h
    have hm : m = empty := ext_get? h
    rw [hm]
    rfl

end Lemmas

end NameMap

/-- A finite set of names. -/
abbrev NameSet := NameMap Unit

namespace NameSet

/-- The set of the names in a list. -/
def ofNames (ns : List String) : NameSet :=
  ns.foldl (fun s n => s.insert n ()) NameMap.empty

private theorem contains_foldl_insert (ns : List String) (s : NameSet) (name : String) :
    (ns.foldl (fun s n => s.insert n ()) s).contains name = true ↔
      s.contains name = true ∨ name ∈ ns := by
  induction ns generalizing s with
  | nil => simp
  | cons n ns ih =>
      rw [List.foldl_cons, ih]
      by_cases hn : n = name
      · simp [NameMap.contains, hn]
      · have hn' : ¬name = n := fun e => hn e.symm
        simp [NameMap.contains, hn, hn']

theorem contains_ofNames {ns : List String} {name : String} :
    (ofNames ns).contains name = true ↔ name ∈ ns := by
  rw [ofNames, contains_foldl_insert]
  simp [NameMap.contains]

/-- A set is determined by its names. -/
theorem ext_contains
    {s t : NameSet}
    (h : ∀ name, s.contains name = true ↔ t.contains name = true) :
    s = t := by
  apply NameMap.ext_get?
  intro name
  have hname := h name
  simp only [NameMap.contains, Option.isSome_iff_exists] at hname
  cases hs : s.get? name with
  | none =>
      cases ht : t.get? name with
      | none => rfl
      | some u => simp [hs, ht] at hname
  | some u =>
      obtain ⟨u', ht⟩ := hname.1 ⟨u, hs⟩
      rw [ht]

end NameSet

end KernelLaunch
