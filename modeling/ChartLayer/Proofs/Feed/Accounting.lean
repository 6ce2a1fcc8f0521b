import ChartLayer.Proofs.Feed.Items

/-!
# Nothing is dropped unreported

A delivery is a list, or a record that holds lists under certain keys. `entryCount` counts what it
brings without reading any of it. Of all these entries each becomes an item or an issue, and the
items keep their order (`Accounted`).

* `accounted_ofResults`: that much holds of every list of results.
* `nothing_malformed_passes`: what passes is well formed, and everything is accounted for.
-/

namespace ChartLayer.Feed

/-! ## Counting the entries -/

/-- How many entries a delivery has: those of a list, or of all lists that a record holds under the
keys. -/
def entryCount (keys : List String) : Json → Nat
  | .list items => items.length
  | .record fs =>
    (keys.map fun key =>
      match fs.lookup key with
      | some (.list items) => items.length
      | _ => 0).sum
  | _ => 0

theorem length_entries (keys : List String) (doc : Json) :
    (entries keys doc).length = entryCount keys doc := by
  cases doc with
  | record fs =>
    rw [entries, entryCount, List.length_flatMap]
    congr 2
    funext key
    rcases fs.lookup key with _ | (_ | _ | _ | _ | _ | _) <;> rfl
  | list items => rfl
  | null | bool _ | number _ | text _ => rfl

/-- How many zones stand under a key, as a list or as the zones of a record. -/
def containedCount (key : String) (doc : Json) : Nat :=
  match doc.get? key with
  | some inner => entryCount ["zones"] inner
  | none => 0

/-- How many zones a delivery has. -/
def zoneCount (doc : Json) : Nat :=
  entryCount ["zones", "items", "data"] doc + containedCount "supply_zones" doc
    + containedCount "demand_zones" doc

theorem length_zoneEntries (doc : Json) : (zoneEntries doc).length = zoneCount doc := by
  rw [zoneEntries, zoneCount, containedCount, containedCount, List.length_append,
    List.length_append, List.length_map, length_entries]
  dsimp only
  cases doc.get? "supply_zones" <;> cases doc.get? "demand_zones" <;>
    simp only [List.length_map, length_entries, List.length_nil]

/-! ## Results -/

/-- Every entry that was found is accounted for: it is an item if it could be read, in the order of
the entries, and an issue if not, and there are `count` of both together. -/
structure Accounted {α β : Type} (read : β → Except Issue α) (found : List β) (count : Nat)
    (d : Delivery α) : Prop where
  items_eq : d.items = found.filterMap fun entry => (read entry).toOption
  issues_eq : d.issues = found.filterMap fun entry => failure? (read entry)
  total : d.items.length + d.issues.length = count

theorem items_ofResults {α : Type} (results : List (Except Issue α)) :
    (Delivery.ofResults results).items = results.filterMap Except.toOption :=
  List.filterMap_congr fun outcome _ => by cases outcome <;> rfl

theorem issues_ofResults {α : Type} (results : List (Except Issue α)) :
    (Delivery.ofResults results).issues = results.filterMap failure? :=
  List.filterMap_congr fun outcome _ => by cases outcome <;> rfl

theorem accounted_ofResults {α β : Type} (read : β → Except Issue α) (found : List β) {count : Nat}
    (hcount : found.length = count) :
    Accounted read found count (.ofResults (found.map read)) where
  items_eq := by
    rw [items_ofResults, List.filterMap_map]
    rfl
  issues_eq := by
    rw [issues_ofResults, List.filterMap_map]
    rfl
  total := by
    rw [items_ofResults, issues_ofResults, length_successes_add_failures, List.length_map, hcount]

/-- **Nothing malformed passes, and nothing is dropped unreported.** For every document: a bar, a
zone, a pool, a level or a session that is read from it is well formed; and of each kind, the items
and the issues of a delivery account for every entry that it brings. -/
theorem nothing_malformed_passes (places : Nat) (doc : Json) :
    (∀ b, readBar doc = .ok b → b.WellFormed)
      ∧ (∀ hint z, readZone hint places doc = .ok z → z.WellFormed)
      ∧ (∀ p, readPool doc = .ok p → p.WellFormed)
      ∧ (∀ l, readLevel doc = .ok l → l.WellFormed)
      ∧ (∀ s, readSession doc = .ok s → s.WellFormed)
      ∧ Accounted readBar (entries ["bars", "candles", "data"] doc)
        (entryCount ["bars", "candles", "data"] doc) (readBars doc)
      ∧ Accounted (fun (hint, entry) => readZone hint places entry) (zoneEntries doc)
        (zoneCount doc) (readZones places doc)
      ∧ Accounted readPool (entries ["pools", "liquidity", "items"] doc)
        (entryCount ["pools", "liquidity", "items"] doc) (readPools doc)
      ∧ Accounted readLevel (entries ["levels", "items"] doc)
        (entryCount ["levels", "items"] doc) (readLevels doc)
      ∧ Accounted readSession (entries ["sessions", "windows", "items"] doc)
        (entryCount ["sessions", "windows", "items"] doc) (readSessions doc) :=
  ⟨fun _ => wellFormed_of_readBar, fun _ _ => wellFormed_of_readZone,
    fun _ => wellFormed_of_readPool, fun _ => wellFormed_of_readLevel,
    fun _ => wellFormed_of_readSession,
    accounted_ofResults _ _ (length_entries _ doc), accounted_ofResults _ _ (length_zoneEntries doc),
    accounted_ofResults _ _ (length_entries _ doc), accounted_ofResults _ _ (length_entries _ doc),
    accounted_ofResults _ _ (length_entries _ doc)⟩

/-! ## A loose record -/

/-- A record that can be read as anything, with its bounds the wrong way round, and that holds
another one and two entries that are of no use. -/
def looseRecord : Json :=
  .record [("id", .text " a "), ("tf", .text "15m"), ("t", .number (.whole 900)),
    ("open", .text "2"), ("close", .number (.whole 5)),
    ("high", .number (.whole 3)), ("low", .number (.whole 4)), ("price", .number (.whole 3)),
    ("items", .list [.record [], .null])]

theorem items_of_looseRecord :
    (∃ b, readBar looseRecord = .ok b ∧ b.WellFormed)
      ∧ (∃ z, readZone none 2 looseRecord = .ok z ∧ z.WellFormed)
      ∧ (∃ p, readPool looseRecord = .ok p ∧ p.WellFormed)
      ∧ (∃ l, readLevel looseRecord = .ok l ∧ l.WellFormed)
      ∧ (∃ s, readSession looseRecord = .ok s ∧ s.WellFormed)
      ∧ (readZones 2 looseRecord).items.length + (readZones 2 looseRecord).issues.length = 2 := by
  obtain ⟨hbar, hzone, hpool, hlevel, hsession, -, hzones, -⟩ :=
    nothing_malformed_passes 2 looseRecord
  obtain ⟨b, hb⟩ := exists_ok_of_isOk (show (readBar looseRecord).isOk = true by decide +kernel)
  obtain ⟨z, hz⟩ :=
    exists_ok_of_isOk (show (readZone none 2 looseRecord).isOk = true by decide +kernel)
  obtain ⟨p, hp⟩ := exists_ok_of_isOk (show (readPool looseRecord).isOk = true by decide +kernel)
  obtain ⟨l, hl⟩ := exists_ok_of_isOk (show (readLevel looseRecord).isOk = true by decide +kernel)
  obtain ⟨s, hs⟩ :=
    exists_ok_of_isOk (show (readSession looseRecord).isOk = true by decide +kernel)
  exact ⟨⟨b, hb, hbar b hb⟩, ⟨z, hz, hzone none z hz⟩, ⟨p, hp, hpool p hp⟩, ⟨l, hl, hlevel l hl⟩,
    ⟨s, hs, hsession s hs⟩, hzones.total⟩

end ChartLayer.Feed
