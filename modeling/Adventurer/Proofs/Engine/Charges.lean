import Adventurer.Proofs.Dressing.Charges
import Adventurer.Proofs.Engine.Frame
import Adventurer.Proofs.Engine.Ownership
import Adventurer.Proofs.Engine.Parts

/-!
# Charged items throughout a run

A hit that spends the last charge of an item destroys the item, so no hit leaves one without charges; and no
operation but a move touches charges at all.  A move leaves an item without charges exactly if it splits
pieces off a charged one that become an item of their own, for these start with none.
-/

namespace Adventurer

variable {σ τ : Type} {types : ItemLookup} {e : Engine σ τ} {s : Situation σ τ}

/-! ## Hits -/

namespace Hit

variable {rules : Rules} {c : Character} {hit : Hit}

theorem charged_spend {item : Item} {spent : Nat} (h : Charged types item)
    (hleft : exhausts spent item = false) : Charged types (spend spent item) := by
  intro type htype hcharges
  have hpos := h type htype hcharges
  unfold exhausts at hleft
  simp only [Bool.and_eq_false_iff, decide_eq_false_iff_not] at hleft
  show 0 < item.charges - spent
  omega

/-- A slot in which the last charge is spent is among those reported. -/
theorem spentIn_passSlot (rules : Rules) (c : Character) (hit : Hit) {p : Passage}
    (h : Wearer.SpentIn types p.exhausted ⟨c, p.arena⟩) (slot : Slot) :
    Wearer.SpentIn types (passSlot rules c hit p slot).exhausted
      ⟨c, (passSlot rules c hit p slot).arena⟩ := by
  unfold passSlot
  split
  · exact h
  · rename_i id item type hheld
    obtain ⟨worn, hworn, hresolved⟩ := Option.bind_eq_some_iff.mp hheld
    obtain ⟨⟨held, kind⟩, hresolve, hsame⟩ := Option.map_eq_some_iff.mp hresolved
    simp only [Prod.mk.injEq] at hsame
    obtain ⟨rfl, rfl, rfl⟩ := hsame
    obtain ⟨hl, -⟩ := Rules.get?_of_resolve? hresolve
    have hmore : ∀ there ∈ p.exhausted, there ∈
        (if exhausts (hit.shares kind).length held then p.exhausted ++ [slot] else p.exhausted) := by
      intro there hthere
      split_ifs
      · exact List.mem_append_left _ hthere
      · exact hthere
    intro x item hx
    simp only at hx ⊢
    rw [Arena.get?_modify] at hx
    split_ifs at hx with hx'
    · obtain ⟨old, hold, rfl⟩ := Option.map_eq_some_iff.mp hx
      subst hx'
      obtain rfl : held = old := Option.some.inj (hl.symm.trans hold)
      rcases h x held hl with hcharged | ⟨there, hthere, hthat⟩
      · cases hspent : exhausts (hit.shares kind).length held with
        | true => exact .inr ⟨slot, by simp, hworn⟩
        | false => exact .inl (charged_spend hcharged hspent)
      · exact .inr ⟨there, hmore there hthere, hthat⟩
    · exact (h x item hx).imp_right fun ⟨there, hthere, hthat⟩ => ⟨there, hmore there hthere, hthat⟩

theorem spentIn_absorb (rules : Rules) (c : Character) (hit : Hit) {a : Arena}
    (h : a.Every (Charged types)) :
    Wearer.SpentIn types (hit.absorb rules c a).2.exhausted ⟨c, (hit.absorb rules c a).1⟩ := by
  have hslots : ∀ (slots : List Slot) (p : Passage), Wearer.SpentIn types p.exhausted ⟨c, p.arena⟩ →
      Wearer.SpentIn types (slots.foldl (hit.passSlot rules c) p).exhausted
        ⟨c, (slots.foldl (hit.passSlot rules c) p).arena⟩ := by
    intro slots
    induction slots with
    | nil => exact fun _ hp => hp
    | cons slot slots ih => exact fun p hp => ih _ (spentIn_passSlot rules c hit hp slot)
  have hstart : Wearer.SpentIn types [] ⟨c, a⟩ := fun x item hx => .inl (h x item hx)
  unfold absorb
  split_ifs
  · exact hstart
  · exact hslots Slot.all ⟨a, hit.amount, []⟩ hstart

end Hit

namespace Engine

open Wearer

/-- A hit leaves every item charged. -/
theorem charged_absorb (e : Engine σ τ) (hit : Hit) (h : s.arena.Every (Charged types)) :
    (e.absorb s hit).value.1.arena.Every (Charged types) :=
  (Hit.spentIn_absorb e.rules s.character hit h).charged_discard e.rules

theorem sound_absorb (e : Engine σ τ) (hit : Hit) (h : s.arena.Sound) :
    (e.absorb s hit).value.1.arena.Sound :=
  absorb_induction (P := fun w => w.arena.Sound) (fun _ id spent hv => hv.modify id (Hit.spend spent))
    (fun _ _ hv => hv) (fun _ id hv => hv.remove id) (fun _ _ hv => hv) e hit h

/-! ## Operations -/

/-- The operation leaves pieces without charges: it splits them off an item of a type with charges, and they
become an item of their own. -/
def Operation.LeavesUncharged (types : ItemLookup) (e : Engine σ τ) (s : Situation σ τ) : Operation → Prop
  | .call (.equip request) => Dressing.SplitsCharged types e.rules e.hook s.wearer request s.hook
  | .call (.unequip slot count) => Dressing.TakesPart types e.rules e.hook s.wearer slot count s.hook
  | _ => False

/-- An operation without deeds leaves the arena alone. -/
theorem arena_operate {o : Operation} (h : o.deeds e.rules.now = []) :
    (e.operate s o).value.arena = s.arena := by
  have hunmoved := (unmoved_operate e s o).arena
  rw [h] at hunmoved
  exact hunmoved

theorem sound_operate (e : Engine σ τ) (h : s.arena.Sound) {o : Operation} (ho : o.Single) :
    (e.operate s o).value.arena.Sound := by
  cases o with
  | call call =>
    cases call with
    | equip request => exact Dressing.sound_tryEquip h
    | unequip slot count => exact Dressing.sound_tryUnequip h
    | absorb hit => exact sound_absorb e hit h
    | runDue schedule => exact ho.elim
  | _ =>
    rw [arena_operate rfl]
    exact h

/-- **What one operation does to charges.**  Every item stays charged exactly if it leaves no pieces
uncharged. -/
theorem charged_operate_iff (hitems : e.rules.items = some types) (hs : s.arena.Sound)
    (h : s.arena.Every (Charged types)) {o : Operation} (ho : o.Single) :
    (e.operate s o).value.arena.Every (Charged types) ↔ ¬ o.LeavesUncharged types e s := by
  cases o with
  | call call =>
    cases call with
    | equip request => exact Dressing.charged_tryEquip_iff hitems hs h
    | unequip slot count => exact Dressing.charged_tryUnequip_iff hs h
    | absorb hit => exact iff_of_true (charged_absorb e hit h) not_false
    | runDue schedule => exact ho.elim
  | _ =>
    rw [arena_operate rfl]
    exact iff_of_true h not_false

/-! ## Runs -/

/-- **When a charged item becomes an unlimited one.**  Take a course in single steps under one catalog, from
a sound arena in which every item of a type with charges has some left.  So it is in every state of the
course exactly if no step of it, an accepted move, splits pieces off an item of a type with charges that
become an item of their own. -/
theorem charged_throughout_iff (types : ItemLookup) (course : Course σ τ) (s : Situation σ τ)
    (hitems : ∀ x ∈ course, x.1.rules.items = some types) (hs : s.arena.Sound)
    (h : s.arena.Every (Charged types)) :
    (∀ before, before <+: partsOf course → (arrived s before).arena.Every (Charged types)) ↔
      ∀ before e o, before ++ [(e, o)] <+: partsOf course →
        ¬ Operation.LeavesUncharged types e (arrived s before) o := by
  have hfit : ∀ x ∈ partsOf course, x.1.rules.items = some types ∧ x.2.Single := fun x hx =>
    ⟨forall_partsOf (fun e => e.rules.items = some types) hitems x hx, single_of_mem_partsOf hx⟩
  have hiff : (∀ before, before <+: partsOf course → (arrived s before).arena.Every (Charged types)) ↔
      ∀ before x, before ++ [x] <+: partsOf course → ¬ x.2.LeavesUncharged types x.1 (arrived s before) :=
    Run.throughout_iff (fun x : Engine σ τ × Operation => x.1.rules.items = some types ∧ x.2.Single)
      (fun _ s => s.arena.Sound) (fun s : Situation σ τ => s.arena.Every (Charged types))
      (fun _ s x hx hs => sound_operate x.1 hs hx.2)
      (fun _ s x hx hs h => charged_operate_iff hx.1 hs h hx.2) (partsOf course) s hfit hs h
  simp only [Prod.forall] at hiff
  exact hiff

/-! ## Ten charms -/

/-- Ten charms of five charges each on the ground. -/
def tenCharms : Situation Unit Unit where
  wearer :=
    { character := { id := ⟨1⟩, name := "Charmer" }
      arena := (Arena.empty.insert ⟨⟨1⟩, 10, 5, []⟩).1 }
  hook := ()
  rates := ()

/-- All that there is are charms. -/
def charmTypes : ItemLookup := fun _ => some { stackable := true, charges := 5, positions := ⟨32⟩ }

def charmEngine : Engine Unit Unit := .plain { items := some charmTypes }

/-- Three of the charms into the left hand. -/
def threeCharms : Course Unit Unit := [(charmEngine, .call (.equip ⟨⟨0, 0⟩, .named .left, 3⟩))]

theorem sound_tenCharms : tenCharms.arena.Sound := Arena.sound_empty.insert _

theorem charged_tenCharms : tenCharms.arena.Every (Charged charmTypes) :=
  Arena.sound_empty.every_insert Arena.every_empty fun _ _ _ => by decide

/-- The charms in the hand have no charges. -/
theorem unlimited_charms :
    (arrived tenCharms threeCharms).character.equipment.get .left = some ⟨1, 0⟩ ∧
    (arrived tenCharms threeCharms).arena.get? ⟨1, 0⟩ = some ⟨⟨1⟩, 3, 0, []⟩ ∧
    (arrived tenCharms threeCharms).arena.get? ⟨0, 0⟩ = some ⟨⟨1⟩, 7, 5, []⟩ ∧
    ¬ (arrived tenCharms threeCharms).arena.Every (Charged charmTypes) := by
  have hcharms : (arrived tenCharms threeCharms).arena.get? ⟨1, 0⟩ = some ⟨⟨1⟩, 3, 0, []⟩ := by
    decide +kernel
  refine ⟨by decide +kernel, hcharms, by decide +kernel, fun h => ?_⟩
  have hpos := h ⟨1, 0⟩ _ hcharms _ rfl (by decide)
  cases hpos

theorem charged_throughout_iff_threeCharms :
    tenCharms.arena.Sound ∧ tenCharms.arena.Every (Charged charmTypes) ∧
    Operation.LeavesUncharged charmTypes charmEngine tenCharms (.call (.equip ⟨⟨0, 0⟩, .named .left, 3⟩)) ∧
    ¬ ∀ before, before <+: partsOf threeCharms →
      (arrived tenCharms before).arena.Every (Charged charmTypes) := by
  have hiff := charged_throughout_iff charmTypes threeCharms tenCharms
    (by simp [threeCharms, charmEngine, plain]) sound_tenCharms charged_tenCharms
  have hsplit : Operation.LeavesUncharged charmTypes charmEngine tenCharms
      (.call (.equip ⟨⟨0, 0⟩, .named .left, 3⟩)) :=
    ⟨⟨⟨⟨1⟩, 10, 5, []⟩, _, rfl, rfl, by decide, by decide⟩, ⟨⟨1, 0⟩, .slot .left, none⟩, by decide +kernel,
      by decide +kernel⟩
  refine ⟨sound_tenCharms, charged_tenCharms, hsplit, fun hall => ?_⟩
  exact hiff.mp hall [] charmEngine _ List.prefix_rfl hsplit

end Engine

end Adventurer
