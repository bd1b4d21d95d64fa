import Mathlib.Data.List.Nodup
import SqlTemplate.Proofs.Missing

/-!
# Options and the ordinals that they fill

A `join` call supplies its shared array to ordinal zero.  The options with positions, the shared
array in its own place among them, go to the ordinals from one up, in the order in which they
stand in the array, whatever their positions are.

* `Query.get?_joinSupply_ordinal` and `Query.get?_joinSupply_name` are what is found in the
  supply of the options under an ordinal and under a name.  `Query.get?_joinSupply_of_kept` says
  the latter of a single name.
* `RenderCall.exists_positioned_split`: the options in front of the shared array and behind it.
* `RenderCall.join_supplies_in_order` puts this together, and `join_depends_on_order` shows that the
  shared array reaches ordinal one only from the first place.
-/

namespace SqlTemplate

open RenderCall (positioned)

/-! ## Supplies of options -/

/-- No key is a name that spells an ordinal. -/
def NamesApart (options : ArrayEntries) : Prop :=
  ∀ text, .name text ∈ options.map Prod.fst → Index.ofString text = .name text

namespace Query

variable {options : ArrayEntries} {shared : Value} {next : Nat}

/-- The value that an option supplies. -/
def joined (shared : Value) (option : Key × Value) : Value :=
  if option.1 = .position 0 then shared else option.2

theorem get?_joinSupply_of_lt (hnames : NamesApart options) {n : Nat} (hlt : n < next) :
    Entries.get? (.ordinal n) (joinSupply shared next options).reverse = none := by
  rw [Entries.get?_eq_none_iff, List.map_reverse, List.mem_reverse,
    RenderCall.mem_keys_joinSupply]
  rintro (⟨m, hle, _, hsame⟩ | ⟨text, hmem, hsame⟩)
  · cases hsame
    omega
  · rw [hnames text hmem] at hsame
    cases hsame

/-- The options with positions go to the ordinals from `next` up in their order. -/
theorem get?_joinSupply_ordinal (hnames : NamesApart options) (n : Nat) :
    Entries.get? (.ordinal (next + n)) (joinSupply shared next options).reverse =
      ((positioned options).map (joined shared))[n]? := by
  induction options generalizing next n with
  | nil => rfl
  | cons option rest ih =>
    have hrest : NamesApart rest := fun text hmem => hnames text (List.mem_cons_of_mem _ hmem)
    obtain ⟨key, value⟩ := option
    cases key with
    | name text =>
      have hindex := hnames text List.mem_cons_self
      rw [joinSupply, Entries.get?_reverse_cons, ih hrest, hindex]
      simp [positioned]
    | position place =>
      rw [joinSupply, Entries.get?_reverse_cons]
      cases n with
      | zero =>
        rw [Nat.add_zero, get?_joinSupply_of_lt hrest (Nat.lt_succ_self _)]
        simp [positioned, joined]
      | succ n =>
        have hnext : next + (n + 1) = next + 1 + n := by omega
        have hother : Index.ordinal next ≠ .ordinal (next + 1 + n) :=
          mt Index.ordinal.inj (by omega)
        rw [hnext, ih hrest, if_neg hother, Option.or_none]
        rfl

/-- An option keeps its name if the name spells no ordinal. -/
theorem get?_joinSupply_of_kept {text : String}
    (hkept : .name text ∈ options.map Prod.fst → Index.ofString text = .name text) :
    Entries.get? (.name text) (joinSupply shared next options).reverse =
      Entries.get? (.name text) options.reverse := by
  induction options generalizing next with
  | nil => rfl
  | cons option rest ih =>
    have hrest : .name text ∈ rest.map Prod.fst → Index.ofString text = .name text :=
      fun hmem => hkept (List.mem_cons_of_mem _ hmem)
    obtain ⟨key, value⟩ := option
    cases key with
    | name other =>
      have hindex : Index.ofString other = .name text ↔ Key.name other = .name text := by
        constructor
        · intro hsame
          rw [← Index.text_ofString other, hsame]
          rfl
        · intro hsame
          cases hsame
          exact hkept List.mem_cons_self
      rw [joinSupply, Entries.get?_reverse_cons, Entries.get?_reverse_cons, ih hrest]
      simp only [hindex]
    | position place =>
      rw [joinSupply, Entries.get?_reverse_cons, Entries.get?_reverse_cons, ih hrest]
      simp

/-- The options with names keep their names. -/
theorem get?_joinSupply_name (hnames : NamesApart options) (text : String) :
    Entries.get? (.name text) (joinSupply shared next options).reverse =
      Entries.get? (.name text) options.reverse :=
  get?_joinSupply_of_kept (hnames text)

end Query

/-! ## Calls -/

namespace RenderCall

variable {options : ArrayEntries} {value : Value} {entries : ArrayEntries} {log after : CallLog}

/-- The options with positions are those in front of the shared one and those behind it. -/
theorem exists_positioned_split (hdistinct : (options.map Prod.fst).Nodup)
    (hget : Entries.get? (.position 0) options = some value) :
    ∃ front back, positioned options = front ++ (.position 0, value) :: back ∧
      ∀ option ∈ front ++ back, option.1 ≠ .position 0 := by
  have hmem : (Key.position 0, value) ∈ positioned options :=
    List.mem_filter.mpr ⟨Entries.mem_of_get?_eq_some hget, rfl⟩
  obtain ⟨front, back, hsplit⟩ := List.append_of_mem hmem
  refine ⟨front, back, hsplit, fun option hoption hkey => ?_⟩
  have hkeys : ((positioned options).map Prod.fst).Nodup :=
    hdistinct.sublist (List.filter_sublist.map _)
  rw [hsplit, List.map_append, List.map_cons, List.nodup_middle, List.nodup_cons,
    ← List.map_append] at hkeys
  exact hkeys.1 (List.mem_map.mpr ⟨option, hoption, hkey⟩)

/-- The shared array goes to ordinal zero.  The options with positions go to the ordinals from
one up in the order of the array, the shared one among them, so the shared array reaches
ordinal one exactly if no other option with a position stands in front of it.  Options with
names are supplied under their names. -/
theorem join_supplies_in_order (query : Query) (hdistinct : (options.map Prod.fst).Nodup)
    (hnames : NamesApart options) (hget : Entries.get? (.position 0) options = some value)
    (hresolve : value.resolve log = (.array entries, after)) :
    ∃ front back supply, positioned options = front ++ (.position 0, value) :: back ∧
      (RenderCall.join options).supply query.canonical log = (.ok supply, after) ∧
      query.join options log = query.render supply after ∧
      Entries.get? (.ordinal 0) supply.reverse = some (.array entries) ∧
      (∀ n, Entries.get? (.ordinal (n + 1)) supply.reverse =
        (front.map Prod.snd ++ .array entries :: back.map Prod.snd)[n]?) ∧
      ∀ text, Entries.get? (.name text) supply.reverse = Entries.get? (.name text) options := by
  obtain ⟨front, back, hsplit, hothers⟩ := exists_positioned_split hdistinct hget
  have hsupply := supply_join hget hresolve query.canonical
  refine ⟨front, back, _, hsplit, hsupply, run_of_supply hsupply, ?_, fun n => ?_, fun text => ?_⟩
  · rw [Entries.get?_reverse_cons, Query.get?_joinSupply_of_lt hnames Nat.one_pos]
    rfl
  · have hvalues : (positioned options).map (Query.joined (.array entries)) =
        front.map Prod.snd ++ .array entries :: back.map Prod.snd := by
      have hkept : ∀ option ∈ front ++ back, Query.joined (.array entries) option = option.2 :=
        fun option hoption => if_neg (hothers option hoption)
      rw [hsplit, List.map_append, List.map_cons,
        List.map_congr_left fun option hoption => hkept option (List.mem_append_left _ hoption),
        List.map_congr_left fun option hoption => hkept option (List.mem_append_right _ hoption)]
      rfl
    have hother : Index.ordinal 0 ≠ .ordinal (1 + n) := mt Index.ordinal.inj (by omega)
    rw [Entries.get?_reverse_cons, Nat.add_comm, Query.get?_joinSupply_ordinal hnames, hvalues,
      if_neg hother, Option.or_none]
  · rw [Entries.get?_reverse_cons, Query.get?_joinSupply_name hnames,
      Entries.get?_reverse hdistinct]
    simp

/-- A shared array between two other options with positions goes to the ordinals zero and
two. -/
theorem join_supplies_in_order_between :
    let shared : ArrayEntries := [(.name "a", .scalar (.integer 1))]
    let value := Value.deferred ⟨"columns", 0⟩ fun _ => .array shared
    let options : ArrayEntries := [(.position 7, .scalar (.integer 5)),
      (.name "y", .scalar (.text "v")), (.position 0, value), (.position (-3), .scalar .null)]
    ∃ query, Query.new (Config.new Text.escapeStandard) ":k :i :L ?s y:s" = .ok query ∧
      (query.join options []).1.1 = .ok "`a` 5 1 NULL 'v'" ∧
      ∃ front back supply, positioned options = front ++ (.position 0, value) :: back ∧
        (RenderCall.join options).supply query.canonical [] = (.ok supply, [⟨"columns", 0⟩]) ∧
        query.join options [] = query.render supply [⟨"columns", 0⟩] ∧
        Entries.get? (.ordinal 0) supply.reverse = some (.array shared) ∧
        (∀ n, Entries.get? (.ordinal (n + 1)) supply.reverse =
          (front.map Prod.snd ++ .array shared :: back.map Prod.snd)[n]?) ∧
        ∀ text, Entries.get? (.name text) supply.reverse =
          Entries.get? (.name text) options := by
  intro shared value options
  have hdistinct : (options.map Prod.fst).Nodup := by
    show [Key.position 7, .name "y", .position 0, .position (-3)].Nodup
    decide
  have hnames : NamesApart options := by
    intro text hmem
    obtain rfl : text = "y" := by simpa [options] using hmem
    decide +kernel
  obtain ⟨query, hnew, hrun⟩ : ∃ query, Query.new (Config.new Text.escapeStandard)
      ":k :i :L ?s y:s" = .ok query ∧ (query.join options []).1.1 = .ok "`a` 5 1 NULL 'v'" :=
    Query.exists_new_of_any (by decide +kernel)
  exact ⟨query, hnew, hrun, join_supplies_in_order query hdistinct hnames rfl rfl⟩

/-- The shared array behind another option with a position does not reach ordinal one.  In
front of it, it does. -/
theorem join_depends_on_order :
    let shared := Value.array [(.name "a", .scalar (.integer 1))]
    let other := Value.scalar (.integer 5)
    let error : BindingError := ⟨.ordinal 1, .list false, .integer, .scalarOutOfPlace⟩
    ∃ query, Query.new (Config.new Text.escapeStandard) "(:k) VALUES (:L) ON :i" = .ok query ∧
      (query.join [(.position 0, shared), (.position 1, other)] []).1.1 =
        .ok "(`a`) VALUES (1) ON 5" ∧
      (query.join [(.position 1, other), (.position 0, shared)] []).1.1 =
        .error (.refused error) ∧
      ∃ supply, (RenderCall.join [(.position 1, other), (.position 0, shared)]).supply
          query.canonical [] = (.ok supply, []) ∧
        Entries.get? (.ordinal 1) supply.reverse = some other ∧
        Entries.get? (.ordinal 2) supply.reverse = some shared := by
  intro shared other error
  obtain ⟨query, hnew, hfirst, hsecond⟩ : ∃ query, Query.new (Config.new Text.escapeStandard)
      "(:k) VALUES (:L) ON :i" = .ok query ∧
      (query.join [(.position 0, shared), (.position 1, other)] []).1.1 =
        .ok "(`a`) VALUES (1) ON 5" ∧
      (query.join [(.position 1, other), (.position 0, shared)] []).1.1 =
        .error (.refused error) :=
    Query.exists_new_of_any (by decide +kernel)
  exact ⟨query, hnew, hfirst, hsecond, _, rfl, rfl, rfl⟩

end RenderCall

end SqlTemplate
