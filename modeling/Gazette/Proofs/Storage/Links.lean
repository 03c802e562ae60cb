import Mathlib.Algebra.Order.Ring.Int
import Mathlib.Data.List.TakeWhile
import Gazette.Proofs.Storage.Reachable

/-!
# The order of the links

Each tag of an article is asked for before it is attached, and asking for a tag uses up an id of the
tags even if the tag is known.  So there are never more links than ids of tags have been given out, the
ids of links never run out, and a new link stands behind all others.
-/

set_option autoImplicit false

namespace Gazette

open Tables Session Database

namespace Tables

variable {before after tables : Tables} {last : Int} {id : Int64}

/-- Whether the links are in the order of their ids, and none of these is above a bound. -/
structure LinkedUpTo (tables : Tables) (last : Int) : Prop where
  begun : 0 ≤ last
  ascending : (tables.links.map LinkRow.id).Pairwise (· < ·)
  given : ∀ link ∈ tables.links, link.id.toInt ≤ last

/-- Whether no more ids of links than of tags are in use. -/
def Linked (tables : Tables) : Prop :=
  tables.LinkedUpTo tables.lastTag.toInt

/-- A row whose id is above all others stands behind them. -/
theorem place_of_last {α : Type} {id : α → Int64} {row : α} {rows : List α}
    (above : ∀ other ∈ rows, id other < id row) : place id row rows = rows ++ [row] := by
  have below : ∀ other ∈ rows, decide (id other < id row) = true :=
    fun other there => decide_eq_true (above other there)
  have nothing_left : rows.dropWhile (fun other => decide (id other < id row)) = [] :=
    List.dropWhile_eq_nil_iff.mpr below
  rw [place, List.takeWhile_eq_self_iff.mpr below, nothing_left]

namespace LinkedUpTo

/-- A larger bound is a bound. -/
theorem mono (linked : tables.LinkedUpTo last) {more : Int} (less : last ≤ more) :
    tables.LinkedUpTo more :=
  ⟨Int.le_trans linked.begun less, linked.ascending,
    fun link there => Int.le_trans (linked.given link there) less⟩

/-- What leaves the links alone leaves their order alone. -/
theorem congr (linked : before.LinkedUpTo last) (same : after.links = before.links) :
    after.LinkedUpTo last :=
  ⟨linked.begun, same ▸ linked.ascending, same ▸ linked.given⟩

/-- Taking links away leaves the others in order. -/
theorem filter {kept : LinkRow → Bool} (linked : before.LinkedUpTo last)
    (fewer : after.links = before.links.filter kept) : after.LinkedUpTo last := by
  refine ⟨linked.begun, ?_, ?_⟩
  · rw [fewer]
    exact linked.ascending.sublist (List.filter_sublist.map _)
  · intro link there
    rw [fewer] at there
    exact linked.given link (List.mem_of_mem_filter there)

/-- The next link is above all others, as long as the bound leaves room for it. -/
theorem nextLink (linked : tables.LinkedUpTo last) (room : last < Int64.maxValue.toInt) :
    tables.nextLink.toInt ≤ last + 1 ∧ ∀ link ∈ tables.links, link.id < tables.nextLink := by
  have begun := linked.begun
  unfold Tables.nextLink
  cases ended : tables.links.getLast? with
  | none =>
    have one : (1 : Int64).toInt = 1 := by decide
    rw [List.getLast?_eq_none_iff.mp ended, one]
    exact ⟨by omega, by simp⟩
  | some row =>
    obtain ⟨earlier, links⟩ := List.getLast?_eq_some_iff.mp ended
    have row_given := linked.given row (by simp [links])
    have more : row.id ≠ Int64.maxValue := by
      intro largest
      rw [largest] at row_given
      omega
    have next : nextId row.id = .ok (row.id + 1) := if_neg more
    have above := toInt_nextId next
    dsimp only
    rw [if_neg more]
    refine ⟨by omega, ?_⟩
    intro link there
    have ascending := linked.ascending
    rw [links, List.map_append, List.pairwise_append] at ascending
    rw [links, List.mem_append, List.mem_singleton] at there
    rcases there with old | rfl
    · exact Int64.lt_trans (ascending.2.2 _ (List.mem_map_of_mem old) _ List.mem_cons_self)
        (nextId_ok next)
    · exact nextId_ok next

/-- A tag that is attached is attached behind all others. -/
theorem insertLink {articleId tagId : Int64} (linked : before.LinkedUpTo last)
    (room : last < Int64.maxValue.toInt)
    (done : Tables.insertLink [] articleId tagId before = .ok after) :
    after = { before with
        links := before.links ++ [⟨before.nextLink, .integer articleId, .integer tagId⟩] } ∧
      after.LinkedUpTo (last + 1) := by
  obtain ⟨-, -, -, rfl⟩ := insertLink_eq_ok done
  obtain ⟨least, above⟩ := linked.nextLink room
  have begun := linked.begun
  rw [place_of_last above]
  refine ⟨rfl, by omega, ?_, ?_⟩
  · rw [List.map_append, List.pairwise_append]
    refine ⟨linked.ascending, List.pairwise_singleton _ _, ?_⟩
    intro id there other new
    obtain ⟨link, present, rfl⟩ := List.mem_map.mp there
    rw [List.map_singleton, List.mem_singleton] at new
    rw [new]
    exact above link present
  · intro link there
    rcases List.mem_append.mp there with old | new
    · have given := linked.given link old
      omega
    · rw [List.mem_singleton.mp new]
      exact least

/-- Tags that are attached one after the other are attached in this order behind all others. -/
theorem attachTags {tags : List Tag} (linked : before.LinkedUpTo last)
    (room : last + tags.length ≤ Int64.maxValue.toInt)
    (done : before.attachTags id tags = .ok after) :
    ∃ rows, after = { before with links := before.links ++ rows } ∧
      rows.map (fun row => (row.articleId, row.tagId)) =
        tags.map (fun tag => (Cell.integer id, Cell.integer tag.id)) ∧
      after.LinkedUpTo (last + tags.length) := by
  induction tags generalizing before last with
  | nil =>
    cases done
    exact ⟨[], by rw [List.append_nil], rfl, by simpa using linked⟩
  | cons tag tags ih =>
    unfold Tables.attachTags at done
    rw [List.foldlM_cons, bind_ok_iff] at done
    obtain ⟨between, first, rest⟩ := done
    rw [List.length_cons, Nat.cast_succ] at room ⊢
    obtain ⟨rfl, still⟩ := linked.insertLink (by omega) first
    obtain ⟨rows, rfl, pairs, ended⟩ := ih still (by omega) rest
    refine ⟨⟨before.nextLink, .integer id, .integer tag.id⟩ :: rows, ?_, ?_, ?_⟩
    · rw [List.append_assoc, List.singleton_append]
    · rw [List.map_cons, List.map_cons, pairs]
    · rw [add_comm (tags.length : Int) 1, ← add_assoc]
      exact ended

end LinkedUpTo

/-- A tag that is asked for uses up an id, whether it is new or not. -/
theorem toInt_lastTag_upsertTag {name : String} (done : upsertTag [] name before = .ok after) :
    after.lastTag.toInt = before.lastTag.toInt + 1 := by
  obtain ⟨id, next, ⟨-, rfl⟩ | ⟨-, rfl⟩⟩ := upsertTag_eq_ok done
  · exact toInt_nextId next
  · exact toInt_nextId next

/-- As many ids are used up as there are tags that are asked for. -/
theorem toInt_lastTag_upsertTags {names : List String} (done : before.upsertTags names = .ok after) :
    after.lastTag.toInt = before.lastTag.toInt + names.length := by
  induction names generalizing before with
  | nil =>
    cases done
    simp
  | cons name names ih =>
    obtain ⟨between, first, rest⟩ := upsertTags_cons.mp done
    have counted := ih rest
    have one := toInt_lastTag_upsertTag first
    rw [List.length_cons, Nat.cast_succ]
    omega

namespace Linked

/-- What uses up ids of tags and leaves the links alone. -/
theorem skip (linked : before.Linked) (same : after.links = before.links)
    (more : before.lastTag.toInt ≤ after.lastTag.toInt) : after.Linked :=
  (linked.congr same).mono more

/-- Asking for tags uses up ids of tags and attaches none. -/
theorem upsertTags {names : List String} (linked : before.Linked)
    (done : before.upsertTags names = .ok after) : after.Linked := by
  have counted := toInt_lastTag_upsertTags done
  obtain ⟨tags, lastTag, rfl⟩ := upsertTags_eq_ok done
  exact linked.skip rfl (by omega)

/-- An article is published with no more links than ids of tags have been used up for it. -/
theorem publish {article : NewArticle} {stamp : Cell} {tags : List Tag} {tagged published : Tables}
    (linked : before.Linked) (asked : before.upsertTags article.tags = .ok tagged)
    (done : insertArticle [] article stamp tagged = .ok (id, published))
    (fewer : tags.length ≤ article.tags.length)
    (attached : published.attachTags id tags = .ok after) : after.Linked := by
  have counted := toInt_lastTag_upsertTags asked
  have largest := Int64.toInt_le tagged.lastTag
  have bound : Int64.maxValue.toInt = 2 ^ 63 - 1 := by decide
  obtain ⟨known, lastTag, rfl⟩ := upsertTags_eq_ok asked
  obtain ⟨-, -, -, rfl⟩ := insertArticle_eq_ok done
  have begun : LinkedUpTo { before with
      tags := known, lastTag, articles := before.articles ++ [article.row id stamp]
      lastArticle := id } before.lastTag.toInt := linked.congr rfl
  dsimp only at counted largest
  have enough : before.lastTag.toInt + tags.length ≤ lastTag.toInt := by omega
  have room : before.lastTag.toInt + tags.length ≤ Int64.maxValue.toInt := by omega
  obtain ⟨rows, rfl, -, ended⟩ := begun.attachTags room attached
  exact ended.mono enough

/-- Whatever a step makes of the tables, no more ids of links than of tags are in use. -/
theorem makes {setting : Setting} {step : Step} {failed : Bool} (linked : before.Linked)
    (makes : step.Makes setting failed before after) : after.Linked := by
  cases makes with
  | nothing => exact linked
  | account _ _ done =>
    obtain ⟨_, -, -, rfl⟩ := insertAccount_eq_ok done
    exact linked.skip rfl le_rfl
  | patch _ done =>
    rcases updateAccount_eq_ok done with ⟨-, rfl, -⟩ | ⟨-, -, -, rfl⟩
    · exact linked
    · exact linked.skip rfl le_rfl
  | tags _ _ _ done => exact linked.upsertTags done
  | article _ _ _ tagged done names _ attached =>
    refine linked.publish tagged done ?_ attached
    rw [← names, List.length_map]
  | repeated _ _ tagged done names _ _ attached =>
    refine linked.publish tagged done ?_ attached
    rw [names, List.length_append, List.length_map]
    exact Nat.le_add_right _ _
  | removal _ marked done =>
    obtain rfl := deleteLinks_eq_ok done
    rcases tombstoneArticle_eq_ok marked with ⟨never, -⟩ | ⟨_, -, -, -, rfl⟩
    · cases never
    · exact linked.filter rfl
  | comment _ _ _ done =>
    obtain ⟨-, -, rfl⟩ := insertComment_eq_ok done
    exact linked.skip rfl le_rfl
  | commentRemoval _ done =>
    obtain ⟨-, -, rfl⟩ := tombstoneComments_eq_ok done
    exact linked.skip rfl le_rfl
  | commentsRemoval _ done =>
    obtain ⟨-, -, rfl⟩ := tombstoneComments_eq_ok done
    exact linked.skip rfl le_rfl

/-- Empty tables have no links. -/
theorem empty : Linked {} :=
  ⟨by decide, .nil, by simp⟩

end Linked

/-- To be orderly and to have the links in order lasts. -/
theorem lasting_linked (setting : Setting) :
    Lasting setting fun tables => tables.Orderly setting.shown ∧ tables.Linked :=
  lasting_of_makes (fun _ both => both.1) fun both makes =>
    ⟨makes.orderly both.1, both.2.makes makes⟩

end Tables

/-- The links of a database that can be reached are in the order of their ids. -/
theorem Database.Reachable.linked {db : Database} (reachable : db.Reachable) : db.tables.Linked :=
  (reachable.within (fun clock => lasting_linked ⟨ShownBy clock, True⟩)
    fun _ => ⟨orderly_empty _, .empty⟩).tables.2

end Gazette
