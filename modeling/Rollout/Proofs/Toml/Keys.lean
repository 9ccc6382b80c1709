import Rollout.Proofs.Table
import Rollout.Toml.Document

/-!
# Keys come once

A document that gives two values to one key is no document, whichever way its tables are written.
So no table in a document that has been read has two entries for one key (`keyed_of_parse`).
-/

namespace Rollout.Toml

/-- No table in the value has two entries for one key. -/
inductive Value.Keyed : Value → Prop where
  | text (s : String) : Keyed (.text s)
  | integer (n : Int) : Keyed (.integer n)
  | real (x : Real) : Keyed (.real x)
  | boolean (b : Bool) : Keyed (.boolean b)
  | moment (s : String) : Keyed (.moment s)
  | array {items : List Value} (h : ∀ v ∈ items, Keyed v) : Keyed (.array items)
  | table {entries : Table} (hkeys : (entries.map (·.1)).Nodup)
      (h : ∀ e ∈ entries, Keyed e.2) : Keyed (.table entries)

/-! ## Tables under construction -/

namespace Tree

/-- No table that is under construction or closed has two entries for one key. -/
inductive Keyed : Tree → Prop where
  | value {v : Value} (h : v.Keyed) : Keyed (.value v)
  | table {made : Made} {entries : Entries} (hkeys : (entries.map (·.1)).Nodup)
      (h : ∀ e ∈ entries, Keyed e.2) : Keyed (.table made entries)
  | tables {latest : List Entries} (hkeys : ∀ entries ∈ latest, (entries.map (·.1)).Nodup)
      (h : ∀ entries ∈ latest, ∀ e ∈ entries, Keyed e.2) : Keyed (.tables latest)

/-- The entries have different keys, and so have those of the tables in them. -/
structure KeyedEntries (entries : Entries) : Prop where
  nodup : (entries.map (·.1)).Nodup
  keyed : ∀ e ∈ entries, e.2.Keyed

variable {entries entries' : Entries} {k : String} {t : Tree}

theorem KeyedEntries.nil : KeyedEntries [] := ⟨.nil, nofun⟩

theorem keyed_table_iff {made : Made} : (table made entries).Keyed ↔ KeyedEntries entries := by
  constructor
  · rintro (_ | ⟨hkeys, h⟩)
    exact ⟨hkeys, h⟩
  · exact fun h => .table h.nodup h.keyed

theorem keyed_tables_iff {latest : List Entries} :
    (tables latest).Keyed ↔ ∀ entries ∈ latest, KeyedEntries entries := by
  constructor
  · rintro (_ | _ | ⟨hkeys, h⟩) entries hmem
    exact ⟨hkeys entries hmem, h entries hmem⟩
  · exact fun h => .tables (fun entries hmem => (h entries hmem).nodup)
      fun entries hmem => (h entries hmem).keyed

/-- The latest table of an array may be replaced. -/
theorem Keyed.replace_last {last : Entries} {earlier : List Entries}
    (h : (Tree.tables (last :: earlier)).Keyed)
    (hlast : KeyedEntries last → KeyedEntries entries) :
    (Tree.tables (entries :: earlier)).Keyed := by
  rw [keyed_tables_iff, List.forall_mem_cons] at h ⊢
  exact ⟨hlast h.1, h.2⟩

theorem KeyedEntries.lookup (h : KeyedEntries entries) (ht : entries.lookup k = some t) :
    t.Keyed :=
  h.keyed (k, t) ((lookup_eq_some_iff_mem h.nodup).1 ht)

/-- Putting an entry in place of the one with its key, or at the end, leaves the keys different. -/
theorem KeyedEntries.put (h : KeyedEntries entries) (ht : t.Keyed) :
    KeyedEntries (put entries k t) := by
  unfold Tree.put
  split
  next hsome =>
    refine ⟨?_, fun e he => ?_⟩
    · have hsame : (entries.map fun e => if e.1 == k then (k, t) else e).map (·.1) =
          entries.map (·.1) := by
        rw [List.map_map]
        refine List.map_congr_left fun e _ => ?_
        show (if e.1 == k then (k, t) else e).1 = e.1
        split
        next hk => exact (beq_iff_eq.1 hk).symm
        next => rfl
      rw [hsame]
      exact h.nodup
    · obtain ⟨e', he', rfl⟩ := List.mem_map.1 he
      split
      · exact ht
      · exact h.keyed e' he'
  next hnone =>
    rw [isSome_lookup_iff_mem_keys] at hnone
    refine ⟨?_, fun e he => ?_⟩
    · rw [List.map_append, List.nodup_append]
      refine ⟨h.nodup, List.nodup_singleton k, ?_⟩
      rintro a ha b hb rfl
      obtain rfl : a = k := List.mem_singleton.1 hb
      exact hnone ha
    · rcases List.mem_append.1 he with he | he
      · exact h.keyed e he
      · rw [List.mem_singleton.1 he]
        exact ht

/-- The change leaves keys different. -/
def KeepsKeys (f : Entries → Option Entries) : Prop :=
  ∀ {entries entries' : Entries}, KeyedEntries entries → f entries = some entries' →
    KeyedEntries entries'

/-- A change somewhere inside leaves keys different if it does so there. -/
theorem keepsKeys_within {f : Entries → Option Entries} (hf : KeepsKeys f) (path : List String) :
    KeepsKeys (within f path) := by
  induction path with
  | nil => exact hf
  | cons k path ih =>
    intro entries entries' h hentries
    unfold within at hentries
    split at hentries
    next hnone =>
      obtain ⟨inner, hinner, hentries⟩ := Option.bind_eq_some_iff.1 hentries
      obtain rfl := Option.some.inj hentries
      exact h.put (keyed_table_iff.2 (ih .nil hinner))
    next made inner htable =>
      obtain ⟨inner', hinner, hentries⟩ := Option.bind_eq_some_iff.1 hentries
      obtain rfl := Option.some.inj hentries
      exact h.put (keyed_table_iff.2 (ih (keyed_table_iff.1 (h.lookup htable)) hinner))
    next last earlier htables =>
      obtain ⟨last', hlast, hentries⟩ := Option.bind_eq_some_iff.1 hentries
      obtain rfl := Option.some.inj hentries
      exact h.put ((h.lookup htables).replace_last fun hall => ih hall hlast)
    next => cases hentries
    next => cases hentries

theorem keepsKeys_openTable (k : String) : KeepsKeys (openTable k) := by
  intro entries entries' h hentries
  unfold openTable at hentries
  split at hentries
  next hnone =>
    obtain rfl := Option.some.inj hentries
    exact h.put (keyed_table_iff.2 .nil)
  next inner htable =>
    obtain rfl := Option.some.inj hentries
    exact h.put (keyed_table_iff.2 (keyed_table_iff.1 (h.lookup htable)))
  next => cases hentries

theorem keepsKeys_openNext (k : String) : KeepsKeys (openNext k) := by
  intro entries entries' h hentries
  unfold openNext at hentries
  split at hentries
  next hnone =>
    obtain rfl := Option.some.inj hentries
    exact h.put (keyed_tables_iff.2 (by simpa using .nil))
  next latest htables =>
    obtain rfl := Option.some.inj hentries
    exact h.put (keyed_tables_iff.2
      (List.forall_mem_cons.2 ⟨.nil, keyed_tables_iff.1 (h.lookup htables)⟩))
  next => cases hentries

theorem keyedEntries_singleton (ht : t.Keyed) : KeyedEntries [(k, t)] :=
  ⟨List.nodup_singleton k, by simpa using ht⟩

theorem keyedEntries_chain {v : Value} (hv : v.Keyed) (path : List String) :
    KeyedEntries (chain k v path) := by
  induction path with
  | nil => exact keyedEntries_singleton (.value hv)
  | cons p path ih => exact keyedEntries_singleton (keyed_table_iff.2 ih)

theorem keepsKeys_assign {v : Value} (hv : v.Keyed) (path : List String) :
    KeepsKeys (assign k v path) := by
  induction path with
  | nil =>
    intro entries entries' h hentries
    unfold assign at hentries
    split at hentries
    · cases hentries
    · obtain rfl := Option.some.inj hentries
      exact h.put (.value hv)
  | cons p path ih =>
    intro entries entries' h hentries
    unfold assign at hentries
    split at hentries
    next hnone =>
      obtain rfl := Option.some.inj hentries
      exact h.put (keyed_table_iff.2 (keyedEntries_chain hv path))
    next made inner htable =>
      split at hentries
      · cases hentries
      · obtain ⟨inner', hinner, hentries⟩ := Option.bind_eq_some_iff.1 hentries
        obtain rfl := Option.some.inj hentries
        exact h.put (keyed_table_iff.2 (ih (keyed_table_iff.1 (h.lookup htable)) hinner))
    next last earlier htables =>
      split at hentries
      · cases hentries
      · obtain ⟨last', hlast, hentries⟩ := Option.bind_eq_some_iff.1 hentries
        obtain rfl := Option.some.inj hentries
        exact h.put ((h.lookup htables).replace_last fun hall => ih hall hlast)
    next => cases hentries
    next => cases hentries

/-! ## Finished tables -/

theorem toTable_eq_map (entries : Entries) :
    toTable entries = entries.map fun e => (e.1, toValue e.2) := by
  induction entries with
  | nil => rfl
  | cons e entries ih =>
    obtain ⟨k, t⟩ := e
    rw [toTable, ih, List.map_cons]

theorem toTables_eq_map (latest : List Entries) :
    toTables latest = latest.map fun entries => .table (toTable entries) := by
  induction latest with
  | nil => rfl
  | cons entries latest ih => rw [toTables, ih, List.map_cons]

theorem keyed_toTable (hkeys : (entries.map (·.1)).Nodup)
    (h : ∀ e ∈ entries, (toValue e.2).Keyed) : (Value.table (toTable entries)).Keyed := by
  rw [toTable_eq_map]
  refine .table (by simpa [Function.comp_def] using hkeys) fun e he => ?_
  obtain ⟨e', he', rfl⟩ := List.mem_map.1 he
  exact h e' he'

theorem Keyed.toValue (h : t.Keyed) : (toValue t).Keyed := by
  induction h with
  | value h =>
    rw [Tree.toValue]
    exact h
  | table hkeys _ ih =>
    rw [Tree.toValue]
    exact keyed_toTable hkeys ih
  | tables hkeys _ ih =>
    rw [Tree.toValue, toTables_eq_map]
    refine .array fun v hv => ?_
    obtain ⟨entries, hmem, rfl⟩ := List.mem_map.1 (List.mem_reverse.1 hv)
    exact keyed_toTable (hkeys entries hmem) (ih entries hmem)

theorem KeyedEntries.toTable (h : KeyedEntries entries) : (Value.table (toTable entries)).Keyed :=
  keyed_toTable h.nodup fun e he => (h.keyed e he).toValue

end Tree

/-- What every step of a fold keeps holds in the end. -/
theorem foldlM_keeps {α β : Type} {P : β → Prop} {f : β → α → Option β} {xs : List α} {b b' : β}
    (hf : ∀ x ∈ xs, ∀ {b b' : β}, P b → f b x = some b' → P b') (hb : P b)
    (h : xs.foldlM f b = some b') : P b' := by
  induction xs generalizing b with
  | nil =>
    obtain rfl := Option.some.inj h
    exact hb
  | cons x xs ih =>
    rw [List.foldlM_cons] at h
    obtain ⟨b₁, hb₁, h⟩ := Option.bind_eq_some_iff.1 h
    exact ih (fun x hx => hf x (List.mem_cons_of_mem _ hx)) (hf x List.mem_cons_self hb hb₁) h

/-! ## Readers -/

/-- Whatever the reader takes has a property. -/
structure Reader.Yields {α : Type} (r : Reader α) (P : α → Prop) : Prop where
  of_taken : ∀ {cs rest : List Char} {a : α}, r cs = some (a, rest) → P a

namespace Reader.Yields

variable {α β : Type} {P : α → Prop} {Q : β → Prop} {r : Reader α} {k : α → Reader β}

theorem pure {a : α} (h : P a) : Yields (Pure.pure a) P where
  of_taken hb := by
    obtain ⟨rfl, -⟩ := Prod.mk.inj (Option.some.inj hb)
    exact h

theorem failure : Yields (Alternative.failure : Reader α) P := ⟨nofun⟩

theorem bind (hr : r.Yields P) (hk : ∀ a, P a → (k a).Yields Q) : Yields (r >>= k) Q where
  of_taken hb := by
    obtain ⟨⟨a, rest⟩, ha, hb⟩ := Option.bind_eq_some_iff.1 hb
    exact (hk a (hr.of_taken ha)).of_taken hb

/-- What is taken first may be anything. -/
theorem after (hk : ∀ a, (k a).Yields Q) : Yields (r >>= k) Q :=
  bind (P := fun _ => True) ⟨fun _ => trivial⟩ fun a _ => hk a

end Reader.Yields

open Reader (Yields)

/-! ## Values -/

/-- A word spells no table. -/
theorem Scalar.keyed_of_ofWord? {cs : List Char} {v : Value} (h : ofWord? cs = some v) :
    v.Keyed := by
  have hbased : ∀ {base : ℕ} {cs : List Char}, basedInteger? base cs = some v → v.Keyed := by
    intro base cs h
    obtain ⟨ds, -, h⟩ := Option.bind_eq_some_iff.1 h
    obtain rfl := Option.some.inj h
    exact .integer _
  have hdecimal : ∀ {cs : List Char}, decimalInteger? cs = some v → v.Keyed := by
    intro cs h
    obtain ⟨ds, -, h⟩ := Option.bind_eq_some_iff.1 h
    split at h
    · obtain rfl := Option.some.inj h
      exact .integer _
    · cases h
  have hinteger : ∀ {cs : List Char}, integer? cs = some v → v.Keyed := by
    intro cs h
    unfold integer? at h
    split at h
    · exact hbased h
    · exact hbased h
    · exact hbased h
    · exact hdecimal h
  have hreal : ∀ {cs : List Char}, real? cs = some v → v.Keyed := by
    intro cs h
    unfold real? at h
    split at h
    split at h
    · obtain rfl := Option.some.inj h
      exact .real _
    · obtain rfl := Option.some.inj h
      exact .real _
    · obtain ⟨whole, -, h⟩ := Option.bind_eq_some_iff.1 h
      obtain ⟨⟨fraction, rest⟩, -, h⟩ := Option.bind_eq_some_iff.1 h
      obtain ⟨power, -, h⟩ := Option.bind_eq_some_iff.1 h
      split at h
      · obtain rfl := Option.some.inj h
        exact .real _
      · cases h
  unfold ofWord? at h
  split at h
  · obtain rfl := Option.some.inj h
    exact .boolean true
  · split at h
    · obtain rfl := Option.some.inj h
      exact .boolean false
    · split at h
      · obtain rfl := Option.some.inj h
        exact .moment _
      · rcases Option.or_eq_some_iff.1 h with h | ⟨-, h⟩
        · exact hinteger h
        · exact hreal h

theorem Scalar.yields_value : Yields Scalar.value Value.Keyed := by
  unfold Scalar.value
  refine .after fun cs => ?_
  split
  next v hv => exact .pure (keyed_of_ofWord? hv)
  next => exact .failure

variable {item : Reader Value}

theorem yields_members (hitem : item.Yields Value.Keyed) (fuel : ℕ) :
    (members item fuel).Yields fun vs => ∀ v ∈ vs, v.Keyed := by
  induction fuel with
  | zero => exact .failure
  | succ fuel ih =>
    unfold members
    refine .after fun _ => .after fun closed => ?_
    split
    · exact .pure nofun
    · refine .bind hitem fun v hv => .after fun _ => .after fun more => ?_
      split
      · exact .bind ih fun vs hvs => .pure (List.forall_mem_cons.2 ⟨hv, hvs⟩)
      · exact .after fun _ => .pure (List.forall_mem_singleton.2 hv)

theorem yields_entry (hitem : item.Yields Value.Keyed) :
    (entry item).Yields fun e => e.2.Keyed := by
  unfold entry
  exact .after fun k => .after fun _ => .after fun _ => .bind hitem fun v hv => .pure hv

theorem yields_inlineEntries (hitem : item.Yields Value.Keyed) (fuel : ℕ) :
    (inlineEntries item fuel).Yields fun es => ∀ e ∈ es, e.2.Keyed := by
  induction fuel with
  | zero => exact .failure
  | succ fuel ih =>
    unfold inlineEntries
    refine .after fun _ => .after fun closed => ?_
    split
    · exact .pure nofun
    · refine .bind (yields_entry hitem) fun e he => .after fun _ => .after fun more => ?_
      split
      · exact .bind ih fun es hes => .pure (List.forall_mem_cons.2 ⟨he, hes⟩)
      · exact .after fun _ => .pure (List.forall_mem_singleton.2 he)

theorem keyed_of_tableOf {es : List (Key × Value)} {v : Value} (h : tableOf es = some v)
    (hes : ∀ e ∈ es, e.2.Keyed) : v.Keyed := by
  obtain ⟨entries, hentries, h⟩ := Option.bind_eq_some_iff.1 h
  obtain rfl := Option.some.inj h
  have hkeyed : Tree.KeyedEntries entries :=
    foldlM_keeps (fun e he _ _ hacc h => Tree.keepsKeys_assign (hes e he) _ hacc h) .nil hentries
  exact hkeyed.toTable

theorem yields_valueOf {item : Option (Reader Value)}
    (hitem : ∀ r, item = some r → Yields r Value.Keyed) : (valueOf item).Yields Value.Keyed := by
  unfold valueOf
  refine .after fun c => ?_
  split
  · exact .after fun s => .pure (.text s)
  · exact .after fun s => .pure (.text s)
  next r =>
    exact .after fun _ => .after fun fuel => .bind (yields_members (hitem r rfl) fuel)
      fun vs hvs => .pure (.array hvs)
  next r =>
    refine .after fun _ => .after fun fuel => .bind (yields_inlineEntries (hitem r rfl) fuel)
      fun es hes => ?_
    split
    next v hv => exact .pure (keyed_of_tableOf hv hes)
    next => exact .failure
  · exact Scalar.yields_value

theorem yields_value (depth : ℕ) : (value depth).Yields Value.Keyed := by
  induction depth with
  | zero => exact yields_valueOf nofun
  | succ depth ih =>
    refine yields_valueOf fun r hr => ?_
    obtain rfl := Option.some.inj hr
    exact ih

/-! ## Documents -/

/-- The value that the statement gives, if any, has no table with two entries for one key. -/
def Statement.Keyed : Statement → Prop
  | .table _ | .next _ => True
  | .entry _ v => v.Keyed

theorem yields_header : header.Yields Statement.Keyed := by
  unfold header
  refine .after fun _ => .after fun next => ?_
  split
  · exact .after fun k => .after fun _ => .after fun _ => .pure trivial
  · exact .after fun k => .after fun _ => .pure trivial

theorem yields_statement : statement.Yields Statement.Keyed := by
  unfold statement
  refine .after fun c => ?_
  split
  · exact yields_header
  · exact .bind (yields_entry (yields_value maxDepth)) fun e he => .pure he

theorem yields_statements (fuel : ℕ) : (statements fuel).Yields fun ss => ∀ s ∈ ss, s.Keyed := by
  induction fuel with
  | zero => exact .failure
  | succ fuel ih =>
    unfold statements
    refine .after fun _ => .after fun done => ?_
    split
    · exact .pure nofun
    · exact .bind yields_statement fun s hs => .after fun _ => .bind ih fun ss hss =>
        .pure (List.forall_mem_cons.2 ⟨hs, hss⟩)

/-- Every statement leaves the keys of the document different. -/
theorem keyedEntries_of_add {d d' : Draft} {s : Statement} (hs : s.Keyed)
    (hd : Tree.KeyedEntries d.entries) (h : d.add s = some d') : Tree.KeyedEntries d'.entries := by
  cases s with
  | table k =>
    obtain ⟨entries, hentries, h⟩ := Option.bind_eq_some_iff.1 h
    obtain rfl := Option.some.inj h
    exact Tree.keepsKeys_within (Tree.keepsKeys_openTable k.last) k.path hd hentries
  | next k =>
    obtain ⟨entries, hentries, h⟩ := Option.bind_eq_some_iff.1 h
    obtain rfl := Option.some.inj h
    exact Tree.keepsKeys_within (Tree.keepsKeys_openNext k.last) k.path hd hentries
  | entry k v =>
    obtain ⟨entries, hentries, h⟩ := Option.bind_eq_some_iff.1 h
    obtain rfl := Option.some.inj h
    exact Tree.keepsKeys_within (Tree.keepsKeys_assign hs k.path) d.current hd hentries

/-- No table in a document has two entries for one key. -/
theorem keyed_of_parse {text : String} {t : Table} (h : parse text = some t) :
    (Value.table t).Keyed := by
  obtain ⟨⟨ss, rest⟩, hss, h⟩ := Option.bind_eq_some_iff.1 h
  obtain ⟨d, hd, h⟩ := Option.bind_eq_some_iff.1 h
  obtain rfl := Option.some.inj h
  have hkeyed : Tree.KeyedEntries d.entries :=
    foldlM_keeps (P := fun d => Tree.KeyedEntries d.entries)
      (fun s hs _ _ hacc h =>
        keyedEntries_of_add ((yields_statements _).of_taken hss s hs) hacc h) .nil hd
  exact hkeyed.toTable

end Rollout.Toml
