import Idenplane.Realms.Transfer

/-! # What an import leaves alone

The rows of a realm come after the realm.  What adds them touches neither realms nor signing keys,
and no client but those of the document.
-/

namespace Idenplane.Realms.Transfer

open Atomic Auth Admin Prog Properties

variable {doc : Document} {K : World → World → Prop} {α : Type}

/-- No row of an import breaks the relation. -/
structure Framing (doc : Document) (K : World → World → Prop) : Prop where
  refl : ∀ w, K w w
  rows : ∀ (w : World) (db : Database) supply, w.supply ≤ supply →
    db.realms = w.db.realms → db.signingKeys = w.db.signingKeys →
    db.clients = w.db.clients → K w { db := db, supply := supply }
  client : ∀ (w : World) (realmId : Nat), ∀ client ∈ doc.clients, K w
    { db := { w.db with
        clients := w.db.clients ++ [clientRow realmId w.supply client] }
      supply := w.supply + 1 }

def Apart (grown : Database → Database) : Prop :=
  ∀ db, (grown db).realms = db.realms ∧ (grown db).signingKeys = db.signingKeys ∧
    (grown db).clients = db.clients

section

variable {throws : Throws} {place : Statement} {taken : Database → Bool}

theorem statement_keeps {effect : World → Option α × World}
    (keeps : ∀ w, K w (effect w).2) : (statement throws place effect).Keeps K := by
  apply Keeps.bind (.require _ _)
  intro _
  apply Keeps.bind (.atomic keeps)
  intro res
  exact .orFail res _

theorem Framing.insert_keeps (framing : Framing doc K) {grown : Nat → Database → Database}
    (apart : ∀ id, Apart (grown id)) : (statement throws place (insert taken grown)).Keeps K := by
  apply statement_keeps
  intro w
  unfold insert
  cases taken w.db with
  | true => exact framing.refl w
  | false =>
    obtain ⟨realms, keys, cs⟩ := apart w.supply w.db
    exact framing.rows w _ _ (le_succ _) realms keys cs

theorem Framing.append_keeps (framing : Framing doc K) {grown : Database → Database}
    (apart : Apart grown) : (statement throws place (append taken grown)).Keeps K := by
  apply statement_keeps
  intro w
  unfold append
  cases taken w.db with
  | true => exact framing.refl w
  | false =>
    obtain ⟨realms, keys, cs⟩ := apart w.db
    exact framing.rows w _ _ (Nat.le_refl _) realms keys cs

end

variable (framing : Framing doc K) (throws : Throws) (rid : Nat)

include framing

theorem Framing.createClient_keeps {c : ImportedClient} (mem : c ∈ doc.clients)
    (i : Nat) (ids : Ids) : (createClient throws rid i c ids).Keeps K := by
  apply Keeps.bind
  · apply statement_keeps
    intro w
    unfold insert
    split
    · exact framing.refl w
    · exact framing.client w rid c mem
  · exact fun _ => trivial

theorem Framing.createScope_keeps (i : Nat) (sc : ImportedScope) (ids : Ids) :
    (createScope throws rid i sc ids).Keeps K := by
  apply Keeps.bind
  · exact framing.insert_keeps fun _ _ => ⟨rfl, rfl, rfl⟩
  intro id
  apply Keeps.bind
  · apply forEach_keeps
    intro j mapper _ _
    exact framing.append_keeps fun _ => ⟨rfl, rfl, rfl⟩
  · exact fun _ => trivial

theorem Framing.seedScope_keeps (i : Nat) (sc : ImportedScope) (res : Unit) :
    (seedScope throws rid i sc res).Keeps K := by
  apply Keeps.bind (.require _ _)
  intro _
  apply Keeps.bind (.read framing.refl _)
  intro old
  cases old with
  | true => trivial
  | false => exact .modify fun w => framing.rows w _ _ (le_succ _) rfl rfl rfl

theorem Framing.seed_keeps (scs : List ImportedScope) :
    (forEach (seedScope throws rid) 0 scs ()).Keeps K := by
  apply forEach_keeps
  intro i sc _ res
  exact framing.seedScope_keeps throws rid i sc res

theorem Framing.createRoot_keeps (i : Nat) (g : ImportedGroup) (ids : Ids) :
    (createRoot throws rid i g ids).Keeps K := by
  apply Keeps.bind (.require _ _)
  intro _
  cases given g.parentName with
  | none => exact .bind (framing.insert_keeps fun _ _ => ⟨rfl, rfl, rfl⟩) fun _ => trivial
  | some p => trivial

theorem Framing.createChild_keeps (i : Nat) (g : ImportedGroup) (ids : Ids) :
    (createChild throws rid i g ids).Keeps K := by
  unfold createChild
  cases given g.parentName with
  | none => trivial
  | some p => exact .bind (framing.insert_keeps fun _ _ => ⟨rfl, rfl, rfl⟩) fun _ => trivial

theorem Framing.assignScopes_keeps (cids sids : Ids) (i : Nat) (asg : ScopeAssignment)
    (res : Unit) :
    (assignScopes throws cids sids i asg res).Keeps K := by
  apply Keeps.bind (.require _ _)
  intro _
  cases get cids asg.clientId with
  | none => trivial
  | some c =>
    apply Keeps.bind
    · apply forEach_keeps
      intro j sc _ _
      unfold assignDefault
      cases get sids sc with
      | none => trivial
      | some id => exact framing.append_keeps fun _ => ⟨rfl, rfl, rfl⟩
    · intro _
      apply forEach_keeps
      intro j sc _ _
      unfold assignOptional
      cases get sids sc with
      | none => trivial
      | some id => exact framing.append_keeps fun _ => ⟨rfl, rfl, rfl⟩

theorem Framing.createUser_keeps (roleIds groupIds : Ids) (i : Nat) (u : ImportedUser) (res : Unit) :
    (createUser throws roleIds groupIds rid i u res).Keeps K := by
  apply Keeps.bind
  · exact framing.insert_keeps fun _ _ => ⟨rfl, rfl, rfl⟩
  intro id
  apply Keeps.bind
  · apply forEach_keeps
    intro j role _ _
    unfold assignRole
    cases get roleIds (roleKey role) with
    | none => trivial
    | some roleId => exact framing.append_keeps fun _ => ⟨rfl, rfl, rfl⟩
  · intro _
    apply forEach_keeps
    intro j g _ _
    unfold assignGroup
    cases get groupIds g with
    | none => trivial
    | some gid => exact framing.append_keeps fun _ => ⟨rfl, rfl, rfl⟩

theorem Framing.importContents_keeps : (importContents throws doc rid).Keeps K := by
  apply Keeps.bind
  · exact forEach_keeps (fun i sc _ ids => framing.createScope_keeps throws rid i sc ids) _ _
  intro sids
  apply Keeps.bind
  · unfold seedScopes
    cases doc.clientScopes.isEmpty with
    | true => exact framing.seed_keeps throws rid seededScopes
    | false => trivial
  intro _
  apply Keeps.bind
  · apply forEach_keeps
    intro i c mem ids
    exact framing.createClient_keeps throws rid mem i ids
  intro cids
  apply Keeps.bind
  · apply forEach_keeps
    intro i role _ ids
    exact .bind (framing.insert_keeps fun _ _ => ⟨rfl, rfl, rfl⟩) fun _ => trivial
  intro roleIds
  apply Keeps.bind
  · exact forEach_keeps (fun i g _ ids => framing.createRoot_keeps throws rid i g ids) _ _
  intro rootIds
  apply Keeps.bind
  · exact forEach_keeps (fun i g _ ids => framing.createChild_keeps throws rid i g ids) _ _
  intro groupIds
  apply Keeps.bind
  · apply forEach_keeps
    intro i provider _ _
    exact framing.append_keeps fun _ => ⟨rfl, rfl, rfl⟩
  intro _
  apply Keeps.bind
  · exact forEach_keeps (fun i asg _ => framing.assignScopes_keeps throws cids sids i asg) _ _
  intro _
  apply Keeps.bind
  · exact forEach_keeps (fun i u _ => framing.createUser_keeps throws rid roleIds groupIds i u) _ _
  exact fun _ => trivial

end Idenplane.Realms.Transfer
