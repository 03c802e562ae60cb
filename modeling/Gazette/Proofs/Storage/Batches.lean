import Mathlib.Data.List.Basic
import Gazette.Proofs.Storage.Scoping
import Gazette.Proofs.Storage.Selected
import Gazette.Proofs.Storage.Shown

/-!
# Reading a listing in batches

A listing is read in two phases, and the tags of its articles are read batch by batch, each batch in the
order in which the tags have been attached to all of its articles.  This gives each article the tags that
a lookup gives it, in the same order, however large the batches are.
-/

set_option autoImplicit false

namespace Gazette

open Tables Session Database

section Batches

variable {α : Type}

/-- The batches make up the list. -/
theorem flatten_batches (size : Nat) (items : List α) : (batches size items).flatten = items := by
  fun_induction batches size items with
  | case1 => rfl
  | case2 item rest ih => rw [List.flatten_cons, ih, List.cons_append, List.take_append_drop]

/-- A batch is never empty, and never larger than it may be. -/
theorem of_mem_batches {size : Nat} {items batch : List α} (there : batch ∈ batches size items) :
    batch ≠ [] ∧ batch.length ≤ max size 1 := by
  fun_induction batches size items with
  | case1 => cases there
  | case2 item rest ih =>
    rcases List.mem_cons.mp there with rfl | later
    · refine ⟨List.cons_ne_nil _ _, ?_⟩
      rw [List.length_cons, List.length_take]
      omega
    · exact ih later

/-- All batches but the last one are as large as they may be. -/
theorem length_of_mem_dropLast_batches {size : Nat} {items batch : List α}
    (there : batch ∈ (batches size items).dropLast) : batch.length = max size 1 := by
  fun_induction batches size items with
  | case1 => cases there
  | case2 item rest ih =>
    cases more : rest.drop (size - 1) with
    | nil =>
      rw [more, batches] at there
      cases there
    | cons next others =>
      have left : ¬ rest.length ≤ size - 1 := by
        intro short
        rw [List.drop_eq_nil_of_le short] at more
        cases more
      rw [more] at there ih
      rw [batches, List.dropLast_cons_cons] at there
      rcases List.mem_cons.mp there with rfl | later
      · rw [List.length_cons, List.length_take]
        omega
      · rw [← batches] at later
        exact ih later

/-- Of things that are chosen by their keys batch by batch, those with a certain key are chosen once, if
no key is in two batches. -/
theorem filter_flatten_batches {β : Type} [DecidableEq β] (key : α → β) (items : List α) (value : β)
    {chunks : List (List β)} (distinct : chunks.flatten.Nodup) :
    ((chunks.map fun batch => items.filter fun item => key item ∈ batch).flatten.filter fun item =>
        key item = value) =
      if value ∈ chunks.flatten then items.filter fun item => key item = value else [] := by
  induction chunks with
  | nil => simp
  | cons batch chunks ih =>
    rw [List.flatten_cons, List.nodup_append] at distinct
    obtain ⟨-, rest_distinct, apart⟩ := distinct
    rw [List.map_cons, List.flatten_cons, List.filter_append, ih rest_distinct, List.filter_filter,
      List.flatten_cons]
    by_cases here : value ∈ batch
    · have nowhere_else : value ∉ chunks.flatten := fun there => apart value here value there rfl
      rw [if_neg nowhere_else, if_pos (List.mem_append_left _ here), List.append_nil]
      apply List.filter_congr
      intro item _
      by_cases own : key item = value <;> simp [own, here]
    · have none_here : (items.filter fun item =>
          decide (key item = value) && decide (key item ∈ batch)) = [] := by
        rw [List.filter_eq_nil_iff]
        intro item _ both
        simp only [Bool.and_eq_true, decide_eq_true_eq] at both
        exact here (both.1 ▸ both.2)
      rw [none_here, List.nil_append]
      simp [here]

/-- Of rows with different keys, those whose keys are among the keys of some of them are these. -/
theorem filter_mem_keys {β : Type} [DecidableEq β] {key : α → β} {some_ all : List α}
    (distinct : (all.map key).Nodup) (part : some_.Sublist all) :
    all.filter (fun row => key row ∈ some_.map key) = some_ := by
  induction part with
  | slnil => rfl
  | cons row part ih =>
    rw [List.map_cons, List.nodup_cons] at distinct
    have absent : key row ∉ _ := fun there => distinct.1 ((part.map key).subset there)
    rw [List.filter_cons_of_neg (by simpa using absent), ih distinct.2]
  | cons_cons row part ih =>
    rw [List.map_cons, List.nodup_cons] at distinct
    rw [List.filter_cons_of_pos (by simp)]
    congr 1
    refine Eq.trans ?_ (ih distinct.2)
    apply List.filter_congr
    intro other there
    have apart : key other ≠ key row := fun same => distinct.1 (same ▸ List.mem_map_of_mem there)
    simp [apart]

end Batches

/-- An article with its tags left out. -/
def Article.bare (article : Article) : Article :=
  { article with tags := [] }

/-- Attaching tags one after the other gives each article its own ones in their order. -/
theorem foldl_attachTag (links : List (Int64 × Tag)) (bare : List Article) :
    links.foldl attachTag bare = bare.map fun article =>
      { article with
        tags := article.tags ++ (links.filter fun link => article.id = link.1).map Prod.snd } := by
  induction links generalizing bare with
  | nil => simp
  | cons link links ih =>
    rw [List.foldl_cons, ih, attachTag, List.map_map]
    apply List.map_congr_left
    intro article _
    by_cases own : article.id = link.1 <;> simp [own]

/-- Articles whose tags have been left out are as before after their tags have been attached. -/
theorem foldl_attachTag_bare {links : List (Int64 × Tag)} {articles : List Article}
    (own : ∀ article ∈ articles,
      (links.filter fun link => article.id = link.1).map Prod.snd = article.tags) :
    links.foldl attachTag (articles.map Article.bare) = articles := by
  rw [foldl_attachTag, List.map_map]
  refine (List.map_congr_left fun article there => ?_).trans (List.map_id' articles)
  exact congrArg (fun tags => { article with tags }) (own article there)

/-- An article whose stamps have been shown by a clock is read back if the clock shows no sign before a
year. -/
theorem Article.near_of_shown {clock : Nat → Instant} {article : Article}
    (near : ∀ reading, (clock reading).IsNear)
    (shown : ShownBy clock article.createdAt ∧ ShownBy clock article.updatedAt) : article.IsNear := by
  obtain ⟨⟨created, createdAt⟩, updated, updatedAt⟩ := shown
  exact ⟨createdAt ▸ near created, updatedAt ▸ near updated⟩

/-- A link that attaches a tag to an article. -/
structure Attachment where
  id : Int64
  articleId : Int64
  tag : Tag
  deriving DecidableEq

/-- The row of an attachment. -/
def Attachment.row (attachment : Attachment) : LinkRow :=
  ⟨attachment.id, .integer attachment.articleId, .integer attachment.tag.id⟩

/-- Different tags have different columns. -/
theorem Tag.injective_columns : Function.Injective fun tag : Tag => tag.row.columns := by
  intro one other same
  obtain ⟨id, named⟩ := List.cons.inj same
  obtain ⟨name, -⟩ := List.cons.inj named
  exact congrArg₂ Tag.mk (Cell.integer.inj (Column.mk.inj id).2) (Cell.text.inj (Column.mk.inj name).2)

/-- A listing as it is read, which fails if one of its articles has a sign before the year of a
stamp. -/
def Listing.reread (listing : Listing) : Except StorageError Listing :=
  if ∀ article ∈ listing.articles, article.IsNear then .ok listing else .error .unreadable

/-- A listing is read if and only if all of its articles are. -/
theorem Listing.reread_eq_ok {listing read : Listing} :
    listing.reread = .ok read ↔ (∀ article ∈ listing.articles, article.IsNear) ∧ listing = read := by
  unfold Listing.reread
  by_cases near : ∀ article ∈ listing.articles, article.IsNear
  · rw [if_pos near, Except.ok.injEq]
    exact ⟨fun same => ⟨near, same⟩, And.right⟩
  · simp [near]

namespace Tables

variable {tables : Tables} {attached : List Attachment} {criteria : ArticleCriteria}
  {entries page : List Article} {shown : Instant → Prop}

/-- Whether the links attach some tags to some articles. -/
structure Attaches (tables : Tables) (attached : List Attachment) : Prop where
  rows : attached.map Attachment.row = tables.links
  tags : ∀ attachment ∈ attached, tables.tag? (.integer attachment.tag.id) = some attachment.tag.row

/-- Every link of orderly tables attaches a tag to an article. -/
theorem Orderly.exists_attached (orderly : tables.Orderly shown) :
    ∃ attached, tables.Attaches attached := by
  have each : ∀ link ∈ tables.links, ∃ attachment : Attachment, attachment.row = link ∧
      tables.tag? (.integer attachment.tag.id) = some attachment.tag.row := by
    intro link there
    obtain ⟨⟨articleId, -, to_article⟩, id, of_tag, to_tag⟩ := orderly.linked link there
    obtain ⟨tag, present, rfl⟩ := List.mem_map.mp of_tag
    obtain ⟨name, named⟩ := orderly.tags tag present
    have has : tables.HasTag ⟨tag.id, name⟩ := by
      rw [HasTag, ← named]
      exact present
    refine ⟨⟨link.id, articleId, ⟨tag.id, name⟩⟩, ?_, orderly.toIntegrity.tag?_eq has⟩
    rw [Attachment.row, ← to_article, ← to_tag]
  obtain ⟨attached, rows, tags⟩ := exists_map_eq each
  exact ⟨attached, rows, tags⟩

/-- What a link is joined with is the tag that it attaches. -/
theorem Attaches.filterMap_tag? {β : Type} (attaches : tables.Attaches attached)
    (chosen : LinkRow → Bool) (columns : LinkRow → TagRow → β) :
    (tables.links.filter chosen).filterMap (fun link => (tables.tag? link.tagId).map (columns link)) =
      (attached.filter fun attachment => chosen attachment.row).map fun attachment =>
        columns attachment.row attachment.tag.row := by
  rw [← attaches.rows, List.filter_map, List.filterMap_map, ← List.filterMap_eq_map]
  apply List.filterMap_congr
  intro attachment there
  have found := attaches.tags attachment (List.mem_of_mem_filter there)
  have same : attachment.row.tagId = .integer attachment.tag.id := rfl
  rw [Function.comp_apply, same, found]
  rfl

/-- The tags that are read for some articles, with the articles that they are attached to. -/
theorem Attaches.mapM_articleTag (attaches : tables.Attaches attached) (ids : List Int64) :
    (tables.linkRows ids).mapM Row.articleTag =
      .ok ((attached.filter fun attachment => attachment.articleId ∈ ids).map fun attachment =>
        (attachment.articleId, attachment.tag)) := by
  have wanted (attachment : Attachment) :
      decide (attachment.row.articleId ∈ ids.map Cell.integer) =
        decide (attachment.articleId ∈ ids) :=
    decide_eq_decide.mpr (List.mem_map_of_injective fun _ _ => Cell.integer.inj)
  have joined : tables.linkRows ids =
      (attached.filter fun attachment => attachment.articleId ∈ ids).map fun attachment =>
        attachment.row.columns attachment.tag.row := by
    rw [linkRows]
    unfold linkColumns?
    rw [attaches.filterMap_tag?]
    simp only [wanted]
  rw [joined, List.mapM_map]
  exact mapM_eq_ok fun _ _ => rfl

/-- The tags of an article are those that are attached to it. -/
theorem Attaches.tagged (attaches : tables.Attaches attached) (id : Int64) :
    tables.Tagged id ((attached.filter fun attachment => attachment.articleId = id).map
      Attachment.tag) := by
  have wanted (attachment : Attachment) :
      decide (attachment.row.articleId = .integer id) = decide (attachment.articleId = id) :=
    decide_eq_decide.mpr ⟨Cell.integer.inj, congrArg Cell.integer⟩
  rw [Tagged, tagRows, attaches.filterMap_tag? _ fun _ => TagRow.columns]
  simp only [wanted]
  rw [List.map_map]
  rfl

/-- An article has only one list of tags. -/
theorem Tagged.unique {id : Int64} {first second : List Tag} (tagged : tables.Tagged id first)
    (also_tagged : tables.Tagged id second) : first = second :=
  List.map_injective_iff.mpr Tag.injective_columns (tagged.symm.trans also_tagged)

/-- Whether some articles are those that pass the filter of a listing, the newest first. -/
structure Selects (tables : Tables) (criteria : ArticleCriteria) (entries : List Article) : Prop where
  rows : entries.map Article.row = (tables.articles.filter (tables.passes criteria)).reverse
  held : ∀ entry ∈ entries, tables.Holds entry

/-- Every listing of orderly tables is one of articles. -/
theorem Orderly.exists_selected (orderly : tables.Orderly shown) (criteria : ArticleCriteria) :
    ∃ entries, tables.Selects criteria entries ∧
      ∀ entry ∈ entries, shown entry.createdAt ∧ shown entry.updatedAt := by
  have each : ∀ row ∈ (tables.articles.filter (tables.passes criteria)).reverse,
      ∃ article : Article, article.row = row ∧ tables.Holds article ∧ shown article.createdAt ∧
        shown article.updatedAt :=
    fun row there =>
      orderly.exists_article (List.mem_of_mem_filter (List.mem_reverse.mp there))
  obtain ⟨entries, rows, held⟩ := exists_map_eq each
  exact ⟨entries, ⟨rows, fun entry there => (held entry there).1⟩,
    fun entry there => (held entry there).2⟩

namespace Selects

/-- The ids of a listing are those of its articles. -/
theorem ids (selects : tables.Selects criteria entries) :
    tables.matchingIds criteria = entries.map Article.id := by
  have same : Article.id = ArticleRow.id ∘ Article.row := rfl
  rw [matchingIds, ← List.map_reverse, ← selects.rows, List.map_map, same]

/-- The articles of a listing are active. -/
theorem active (selects : tables.Selects criteria entries) {entry : Article}
    (there : entry ∈ entries) : entry.deletedAtUnix = 0 := by
  have row := List.mem_map_of_mem (f := Article.row) there
  rw [selects.rows, List.mem_reverse] at row
  exact Cell.integer.inj (Statement.passes_iff.mp (List.mem_filter.mp row).2).1

/-- The articles of a listing have different ids. -/
theorem distinct (selects : tables.Selects criteria entries) (sane : tables.Integrity) :
    (entries.map Article.id).Nodup := by
  rw [← selects.ids]
  exact (Statement.descending_matchingIds sane criteria).imp fun less => (Int64.ne_of_lt less).symm

/-- The rows with the ids of some articles of a listing are those of these articles. -/
theorem rows_of_page (selects : tables.Selects criteria entries) (sane : tables.Integrity)
    (part : page.Sublist entries) :
    (tables.articles.filter fun row => row.id ∈ page.map Article.id).reverse =
      page.map Article.row := by
  have same : page.map Article.id = (page.map Article.row).map ArticleRow.id := by
    rw [List.map_map]
    rfl
  have part_of_all : (page.map Article.row).Sublist tables.articles.reverse := by
    refine (part.map Article.row).trans ?_
    rw [selects.rows]
    exact List.reverse_sublist.mpr List.filter_sublist
  have different : (tables.articles.reverse.map ArticleRow.id).Nodup := by
    rw [List.map_reverse]
    exact List.nodup_reverse.mpr sane.articleIds.distinct
  rw [← List.filter_reverse, same]
  exact filter_mem_keys different part_of_all

/-- The tags that are read batch by batch are those of the articles. -/
theorem attach_batches (selects : tables.Selects criteria entries)
    (sane : tables.Integrity) (attaches : tables.Attaches attached) (part : page.Sublist entries)
    (tagBatch : Nat) :
    ((batches tagBatch (page.map Article.id)).map fun batch =>
        (attached.filter fun attachment => attachment.articleId ∈ batch).map fun attachment =>
          (attachment.articleId, attachment.tag)).flatten.foldl attachTag (page.map Article.bare) =
      page := by
  have ids := flatten_batches tagBatch (page.map Article.id)
  have different : (batches tagBatch (page.map Article.id)).flatten.Nodup := by
    rw [ids]
    exact (selects.distinct sane).sublist (part.map Article.id)
  apply foldl_attachTag_bare
  intro article there
  have held := selects.held article (part.subset there)
  -- the ids are those of all batches, and the article's own id is in exactly one of them
  have chosen := filter_flatten_batches Attachment.articleId attached article.id different
  rw [ids, if_pos (List.mem_map_of_mem there)] at chosen
  have own : (fun link : Int64 × Tag => decide (article.id = link.1)) ∘
      (fun attachment : Attachment => (attachment.articleId, attachment.tag)) =
        fun attachment => decide (attachment.articleId = article.id) :=
    funext fun _ => decide_eq_decide.mpr eq_comm
  have batched : ((batches tagBatch (page.map Article.id)).map fun batch =>
      (attached.filter fun attachment => attachment.articleId ∈ batch).map fun attachment =>
        (attachment.articleId, attachment.tag)) =
      ((batches tagBatch (page.map Article.id)).map fun batch =>
        attached.filter fun attachment => attachment.articleId ∈ batch).map
          (List.map fun attachment => (attachment.articleId, attachment.tag)) := by
    rw [List.map_map]
    rfl
  rw [batched, ← List.map_flatten, List.filter_map, own, chosen, List.map_map]
  exact (attaches.tagged article.id).unique held.tags

end Selects

end Tables

namespace Database

variable {db : Database} {criteria : ArticleCriteria} {entries page : List Article}

/-- Sessions that answer and leave the database alone are run one after the other. -/
theorem run_mapM_eq_ok {α β : Type} {session : α → Session Database β} {value : α → β}
    {items : List α} (each : ∀ item, (session item).run db = (.ok (value item), db)) :
    (items.mapM session).run db = (.ok (items.map value), db) := by
  induction items with
  | nil => rfl
  | cons item items ih =>
    rw [List.mapM_cons, run_bind, each]
    dsimp only
    rw [run_bind, ih]
    rfl

/-- The articles of a page are read without their tags. -/
theorem mapError_mapM_page (held : ∀ article ∈ page, db.tables.Holds article) :
    (((page.map Article.row).filterMap db.tables.articleColumns?).mapM Row.article).mapError
        (EngineError.about articleEntity "list") =
      if ∀ article ∈ page, article.IsNear then .ok (page.map Article.bare) else .error .unreadable := by
  have each : ∀ article ∈ page, ∃ columns, db.tables.articleColumns? article.row = some columns ∧
      (Row.article columns).mapError (EngineError.about articleEntity "list") =
        article.bare.reread := by
    intro article there
    obtain ⟨account, joined, shows_⟩ := (held article there).author.articleColumns?
    exact ⟨_, joined, Article.mapError_row shows_ _ _⟩
  exact (mapError_mapM_joined each).trans (mapM_ite fun _ => rfl)

/-- Listing articles answers with a page of those that pass the filter, as it is read back, whatever the
size of the batches. -/
theorem run_listArticles (healthy : db.Healthy) {shown : Instant → Prop}
    (orderly : db.tables.Orderly shown) (selects : db.tables.Selects criteria entries)
    (tagBatch : Nat) :
    (listArticles tagBatch criteria).run db =
      (Listing.reread ⟨(entries.drop criteria.offset.toNat).take criteria.limit.toNat,
        entries.length⟩, db) := by
  obtain ⟨attached, attaches⟩ := orderly.exists_attached
  have total : (db.tables.matchingIds criteria).length = entries.length := by
    rw [selects.ids, List.length_map]
  have part : ((entries.drop criteria.offset.toNat).take criteria.limit.toNat).Sublist entries :=
    (List.take_sublist _ _).trans (List.drop_sublist _ _)
  have ids : ((db.tables.matchingIds criteria).drop criteria.offset.toNat).take criteria.limit.toNat =
      ((entries.drop criteria.offset.toNat).take criteria.limit.toNat).map Article.id := by
    rw [selects.ids, ← List.map_drop, ← List.map_take]
  generalize (entries.drop criteria.offset.toNat).take criteria.limit.toNat = page at part ids ⊢
  have tagged (batch : List Int64) :
      (inListing (query [.articleTags, .tags] fun tables =>
        (tables.linkRows batch).mapM Row.articleTag)).run db =
        (.ok ((attached.filter fun attachment => attachment.articleId ∈ batch).map fun attachment =>
          (attachment.articleId, attachment.tag)), db) := by
    rw [inListing, run_query healthy, attaches.mapM_articleTag]
    rfl
  unfold listArticles
  rw [run_bind, inListing, run_query healthy, total]
  dsimp only [Except.mapError]
  rw [run_bind, inListing, run_query healthy, ids]
  dsimp only [Except.mapError]
  by_cases nothing : page.map Article.id = []
  · rw [if_pos nothing, List.map_eq_nil_iff.mp nothing]
    rfl
  · rw [if_neg nothing, run_bind, inListing, run_query healthy,
      selects.rows_of_page orderly.toIntegrity part,
      mapError_mapM_page fun article there => selects.held article (part.subset there), Listing.reread]
    by_cases near : ∀ article ∈ page, article.IsNear
    · rw [if_pos near, if_pos near]
      dsimp only
      rw [run_bind, run_mapM_eq_ok tagged]
      dsimp only
      rw [selects.attach_batches orderly.toIntegrity attaches part]
      rfl
    · rw [if_neg near, if_neg near]

/-- The databases on which listings and lookups are made: those that operations lead to, and those
between the steps of their units of work. -/
inductive Visited : Database → Prop where
  | outside {db : Database} (reachable : db.Reachable) : Visited db
  | inside {db : Database} (reachable : db.Reachable) (tagBatch : Nat) (work : Work) {stage : Stage}
    (there : stage ∈ work.stages tagBatch { db with beforeWork := some db.tables }) :
    Visited stage.before

/-- Also between the steps of a unit of work the tables are orderly and the links in their order. -/
theorem Visited.within (visited : db.Visited) :
    db.Within db.clock fun tables => tables.Orderly (ShownBy db.clock) ∧ tables.Linked := by
  have lasting (clock : Nat → Instant) := lasting_linked ⟨ShownBy clock, True⟩
  have empty (clock : Nat → Instant) :
      ({} : Tables).Orderly (ShownBy clock) ∧ ({} : Tables).Linked := ⟨orderly_empty _, .empty⟩
  cases visited with
  | outside reachable => exact reachable.within lasting empty
  | @inside db reachable tagBatch work stage there =>
    have within := (reachable.within lasting empty).opened
    obtain ⟨kept, -, -⟩ := work.within_stage (lasting db.clock) within there
    rw [kept.same_clock]
    exact kept

/-- Whether a listing gives an answer, however large the batches are, on its own and as a step of a unit
of work. -/
def Lists (db : Database) (criteria : ArticleCriteria) (answer : Except StorageError Listing) : Prop :=
  ∀ tagBatch, ((articleRepository tagBatch).list criteria).run.outcome db = (.ok answer, db) ∧
    ((Step.listArticles criteria).perform tagBatch).run db = (answer, db)

/-- Whether a lookup gives an answer, on its own and as a step of a unit of work. -/
def LooksUp (db : Database) (slug : String) (answer : Except StorageError Article) : Prop :=
  ∀ tagBatch, ((articleRepository tagBatch).find slug).run.outcome db = (.ok answer, db) ∧
    ((Step.findArticle slug).perform tagBatch).run db = (answer, db)

/-- A listing answers with the page of the entries that it selects. -/
theorem Visited.lists (visited : db.Visited) (selects : db.tables.Selects criteria entries) :
    db.Lists criteria (Listing.reread
      ⟨(entries.drop criteria.offset.toNat).take criteria.limit.toNat, entries.length⟩) :=
  fun tagBatch =>
    have ran := run_listArticles visited.within.toHealthy visited.within.tables.1 selects tagBatch
    ⟨outcome_of_run ran, ran⟩

/-- A lookup answers with what the tables hold under the slug. -/
theorem Visited.looksUp (visited : db.Visited) (slug : String) :
    db.LooksUp slug (db.tables.lookup slug) :=
  fun _ =>
    have ran := run_findArticle visited.within.toHealthy slug
    ⟨outcome_of_run ran, ran⟩

/-- A listing and the lookups agree: whatever the filter and the page, a listing answers with an article
for each id on the page, and every one of them is what a lookup by its slug answers with, down to all of
its tags and their order.  So it makes no difference to a listing how large the batches are in which the
tags are read.  No batch is empty, none is larger than it may be, all but the last one are as large, and
together they are what has been cut up; this is also so if the size is given as zero, which counts as
one.  What is read of the tables for some ids is what the statements give.  A listing can fail only if
the clock shows a sign before a year. -/
theorem listings_agree_with_lookups (visited : db.Visited) :
    (∀ criteria, ∃ answer, db.Lists criteria answer ∧
      (∀ listing, answer = .ok listing →
        listing.articles.map Article.id = ((db.tables.matchingIds criteria).drop
          criteria.offset.toNat).take criteria.limit.toNat ∧
        ∀ article ∈ listing.articles, db.LooksUp article.slug (.ok article)) ∧
      ((∀ reading, (db.clock reading).IsNear) → ∃ listing, answer = .ok listing)) ∧
    (∀ (tagBatch : Nat) (ids : List Int64),
      (batches tagBatch ids).flatten = ids ∧
      (∀ batch ∈ batches tagBatch ids, batch ≠ [] ∧ batch.length ≤ max tagBatch 1) ∧
      ∀ batch ∈ (batches tagBatch ids).dropLast, batch.length = max tagBatch 1) ∧
    ∀ ids : List Int64,
      (Statement.articlesByIds ids.length).Gives (Statement.selectArticlesByIds ids.length) db.tables
        (ids.map Cell.integer)
        (((db.tables.articles.filter fun row => row.id ∈ ids).reverse.filterMap
          db.tables.articleColumns?).map fun row => row.map Column.cell) ∧
      (Statement.tagsByArticleIds ids.length).Gives (Statement.selectTagsByArticleIds ids.length)
        db.tables (ids.map Cell.integer)
        ((db.tables.linkRows ids).map fun row => row.map Column.cell) := by
  have ⟨orderly, linked⟩ := visited.within.tables
  have sane := orderly.toIntegrity
  refine ⟨fun criteria => ?_, fun tagBatch ids => ?_, fun ids => ⟨?_, ?_⟩⟩
  · obtain ⟨entries, selects, dated⟩ := orderly.exists_selected criteria
    have part : ((entries.drop criteria.offset.toNat).take criteria.limit.toNat).Sublist entries :=
      (List.take_sublist _ _).trans (List.drop_sublist _ _)
    refine ⟨_, visited.lists selects, ?_, ?_⟩
    · intro listing read
      obtain ⟨near, rfl⟩ := Listing.reread_eq_ok.mp read
      refine ⟨by rw [List.map_take, List.map_drop, selects.ids], fun article there => ?_⟩
      have listed := part.subset there
      have found := visited.looksUp article.slug
      rw [lookup_of_holds sane.oneActive (selects.held article listed) (selects.active listed),
        Article.reread, if_pos (near article there)] at found
      exact found
    · intro near
      exact ⟨_, Listing.reread_eq_ok.mpr ⟨fun article there =>
        Article.near_of_shown near (dated article (part.subset there)), rfl⟩⟩
  · exact ⟨flatten_batches tagBatch ids, fun batch there => of_mem_batches there,
      fun batch there => length_of_mem_dropLast_batches there⟩
  · exact ⟨Statement.articlesByIds_text _, Statement.rows_articlesByIds sane ids⟩
  · exact ⟨Statement.tagsByArticleIds_text _, Statement.rows_tagsByArticleIds sane linked ids⟩

end Database

namespace Sample

/-- The sample with another article, which has a new and a known tag. -/
def listed : Database :=
  (((articleRepository 100).save
    ⟨"hello-again", "Hello Again", "b", 2, ["rust", "go"]⟩).run.outcome commented).2

/-- The sample of a listing is built by operations. -/
theorem reachable_listed : listed.Reachable :=
  reachable_commented.article 100 (.save ⟨"hello-again", "Hello Again", "b", 2, ["rust", "go"]⟩)

/-- The names of the tags of the articles that a listing answers with, and the number of all. -/
def outline (answer : Except StorageError Listing) : Option (List (List String) × Nat) :=
  answer.toOption.map fun listing => (listing.articles.map Article.tagNames, listing.total)

/-- A listing whose outline shows two articles has answered with two articles with those tags. -/
theorem eq_ok_of_outline {answer : Except StorageError Listing} {first second : List String}
    {total : Nat} (outlined : outline answer = some ([first, second], total)) :
    ∃ newer older, answer = .ok ⟨[newer, older], total⟩ ∧ newer.tagNames = first ∧
      older.tagNames = second := by
  obtain ⟨listing, read, told⟩ := Option.map_eq_some_iff.mp outlined
  obtain ⟨names, rfl⟩ := Prod.mk.inj told
  obtain ⟨newer, rest, articles, newer_tags, others⟩ := List.map_eq_cons_iff.mp names
  obtain ⟨older, rfl, older_tags⟩ := List.map_eq_singleton_iff.mp others
  refine ⟨newer, older, ?_, newer_tags, older_tags⟩
  cases answer with
  | error error => cases read
  | ok found =>
    obtain rfl := Option.some.inj read
    rw [← articles]

end Sample

/-- A listing by a tag answers with all tags of both articles that have it, and so do the lookups. -/
theorem listings_agree_with_lookups_listed :
    Sample.listed.Visited ∧ ∃ newer older,
      Sample.listed.Lists { tags := ["go"] } (.ok ⟨[newer, older], 2⟩) ∧
      newer.tagNames = ["rust", "go"] ∧ older.tagNames = ["go"] ∧
      Sample.listed.LooksUp newer.slug (.ok newer) ∧ Sample.listed.LooksUp older.slug (.ok older) := by
  have visited : Sample.listed.Visited := .outside Sample.reachable_listed
  have outlined : Sample.outline
      (((Step.listArticles { tags := ["go"] }).perform 0).run Sample.listed).1 =
        some ([["rust", "go"], ["go"]], 2) := by
    decide +kernel
  -- nothing else of the sample matters
  generalize Sample.listed = db at visited outlined ⊢
  obtain ⟨lists, -, -⟩ := Database.listings_agree_with_lookups visited
  obtain ⟨answer, answered, agree, -⟩ := lists { tags := ["go"] }
  rw [(answered 0).2] at outlined
  obtain ⟨newer, older, rfl, newer_tags, older_tags⟩ := Sample.eq_ok_of_outline outlined
  exact ⟨visited, newer, older, answered, newer_tags, older_tags,
    (agree _ rfl).2 newer List.mem_cons_self,
    (agree _ rfl).2 older (List.mem_cons_of_mem _ List.mem_cons_self)⟩

end Gazette
