import Mathlib.Data.List.Basic
import Mathlib.Data.List.Nodup
import Gazette.Proofs.Storage.Changes
import Gazette.Proofs.Storage.Removals

/-!
# The integrity of the tables

Some of what the tables promise is watched by the engine: that emails, usernames, names of tags and
pairs of an article and a tag are taken once, and that references have targets.  The rest is upheld
by the operations alone: that no article has an empty slug, and that only active articles carry
tags.  Every change keeps the promises, apart from two that belong to a larger operation.  A tag may
only be attached to an active article, and the tags of a deleted article have to be detached.
-/

set_option autoImplicit false

namespace Gazette

namespace Tables

/-- Rows in ascending order of their ids, all of which have been given out. -/
structure Numbered {α : Type} (id : α → Int64) (last : Int64) (rows : List α) : Prop where
  ascending : (rows.map id).Pairwise (· < ·)
  given : ∀ row ∈ rows, id row ≤ last

/-- Whether a value refers to one of some ids. -/
def Refers (ids : List Int64) (reference : Cell) : Prop :=
  ∃ id ∈ ids, reference = .integer id

namespace Numbered

variable {α : Type} {id : α → Int64} {last next : Int64} {rows : List α}

/-- No id is used twice. -/
theorem distinct (numbered : Numbered id last rows) : (rows.map id).Nodup := by
  apply numbered.ascending.imp
  intro first second less same
  rw [same] at less
  exact Int64.lt_irrefl less

/-- Two rows with one id are one. -/
theorem eq_of_id (numbered : Numbered id last rows) {first second : α} (there : first ∈ rows)
    (also_there : second ∈ rows) (same : id first = id second) : first = second :=
  List.inj_on_of_nodup_map numbered.distinct there also_there same

/-- An id that is used up without a row. -/
theorem skip (numbered : Numbered id last rows) (more : last ≤ next) : Numbered id next rows where
  ascending := numbered.ascending
  given row there := Int64.le_trans (numbered.given row there) more

/-- A row with the next id. -/
theorem append (numbered : Numbered id last rows) {row : α} (more : last < next)
    (own : id row = next) : Numbered id next (rows ++ [row]) where
  ascending := by
    rw [List.map_append, List.pairwise_append]
    refine ⟨numbered.ascending, List.pairwise_singleton _ _, ?_⟩
    intro old there new same
    obtain ⟨other, present, rfl⟩ := List.mem_map.mp there
    rw [List.mem_singleton.mp same, own]
    exact Int64.lt_of_le_of_lt (numbered.given other present) more
  given other there := by
    rcases List.mem_append.mp there with old | new
    · exact Int64.le_of_lt (Int64.lt_of_le_of_lt (numbered.given other old) more)
    · rw [List.mem_singleton.mp new, own]
      exact Int64.le_refl _

/-- A change of rows that leaves their ids alone. -/
theorem map (numbered : Numbered id last rows) {change : α → α}
    (ids : ∀ row, id (change row) = id row) : Numbered id last (rows.map change) where
  ascending := by
    have same : id ∘ change = id := funext ids
    rw [List.map_map, same]
    exact numbered.ascending
  given row there := by
    obtain ⟨old, present, rfl⟩ := List.mem_map.mp there
    rw [ids]
    exact numbered.given old present

end Numbered

/-- What the tables promise. -/
structure Integrity (tables : Tables) : Prop where
  accountIds : Numbered AccountRow.id tables.lastAccount tables.accounts
  articleIds : Numbered ArticleRow.id tables.lastArticle tables.articles
  tagIds : Numbered TagRow.id tables.lastTag tables.tags
  commentIds : Numbered CommentRow.id tables.lastComment tables.comments
  emails : (tables.accounts.map AccountRow.email).Nodup
  usernames : (tables.accounts.map AccountRow.username).Nodup
  tagNames : (tables.tags.map TagRow.name).Nodup
  oneActive : tables.OneActive
  slugs : ∀ row ∈ tables.articles, row.slug ≠ .text ""
  pairs : (tables.links.map fun link => (link.articleId, link.tagId)).Nodup
  linked : ∀ link ∈ tables.links, Refers (tables.articles.map ArticleRow.id) link.articleId ∧
    Refers (tables.tags.map TagRow.id) link.tagId
  unlinked : ∀ row ∈ tables.articles, row.isActive = false →
    ∀ link ∈ tables.links, link.articleId ≠ .integer row.id
  authors : ∀ row ∈ tables.articles, Refers (tables.accounts.map AccountRow.id) row.authorId
  commenters : ∀ row ∈ tables.comments, Refers (tables.accounts.map AccountRow.id) row.authorId

/-- No rows are numbered whatever the last id is. -/
theorem numbered_nil {α : Type} (id : α → Int64) (last : Int64) : Numbered id last [] where
  ascending := .nil
  given := by simp

/-- Empty tables keep what they promise. -/
theorem integrity_empty : Integrity {} where
  accountIds := numbered_nil _ _
  articleIds := numbered_nil _ _
  tagIds := numbered_nil _ _
  commentIds := numbered_nil _ _
  emails := .nil
  usernames := .nil
  tagNames := .nil
  oneActive := fun _ => Nat.zero_le _
  slugs := by simp
  pairs := .nil
  linked := by simp
  unlinked := by simp
  authors := by simp
  commenters := by simp

/-- A reference still has its target after ids have been added. -/
theorem Refers.append {ids : List Int64} {reference : Cell} (refers : Refers ids reference)
    (more : List Int64) : Refers (ids ++ more) reference := by
  obtain ⟨id, there, same⟩ := refers
  exact ⟨id, List.mem_append_left _ there, same⟩

/-- A value that is not there yet keeps the values distinct. -/
theorem nodup_map_append {α β : Type} {value : α → β} {rows : List α} {row : α}
    (distinct : (rows.map value).Nodup) (new : ∀ other ∈ rows, value other ≠ value row) :
    ((rows ++ [row]).map value).Nodup := by
  rw [List.map_append, List.nodup_append]
  refine ⟨distinct, List.nodup_singleton _, ?_⟩
  intro old there last same
  obtain ⟨other, present, rfl⟩ := List.mem_map.mp there
  rw [List.mem_singleton.mp same]
  exact new other present

/-- A reference has a target among the accounts. -/
theorem refers_of_account? {tables : Tables} {reference : Cell}
    (known : (tables.account? reference).isSome) :
    Refers (tables.accounts.map AccountRow.id) reference := by
  obtain ⟨row, found⟩ := Option.isSome_iff_exists.mp known
  have same : Cell.integer row.id = reference := by simpa using List.find?_some found
  exact ⟨row.id, List.mem_map_of_mem (List.mem_of_find?_eq_some found), same.symm⟩

/-- A reference that leads to a tag has a target among the tags. -/
theorem refers_of_tag? {tables : Tables} {reference : Cell}
    (known : (tables.tag? reference).isSome) :
    Refers (tables.tags.map TagRow.id) reference := by
  obtain ⟨row, found⟩ := Option.isSome_iff_exists.mp known
  have same : Cell.integer row.id = reference := by simpa using List.find?_some found
  exact ⟨row.id, List.mem_map_of_mem (List.mem_of_find?_eq_some found), same.symm⟩

/-- A patch keeps the usernames distinct unless it claims the one of another account. -/
theorem nodup_usernames_patched {rows : List AccountRow} {email : String} {patch : AccountPatch}
    {stamp : Cell} (emails : (rows.map AccountRow.email).Nodup)
    (usernames : (rows.map AccountRow.username).Nodup)
    (free : ∀ username, patch.username = some username → ∀ row ∈ rows,
      row.username = .text username → row.email = .text email) :
    ((rows.map (AccountRow.patched email patch stamp)).map AccountRow.username).Nodup := by
  rw [List.map_map]
  unfold List.Nodup at emails usernames ⊢
  rw [List.pairwise_map] at emails usernames ⊢
  apply (emails.and usernames).imp_of_mem
  rintro first second there also_there ⟨other_email, other_username⟩
  -- whatever username the patch gives, no other account has it
  have apart {row other : AccountRow} (present : other ∈ rows)
      (unpatched : other.email ≠ .text email) (different : row.username ≠ other.username) :
      (patchRow patch stamp row).username ≠ other.username := by
    cases claimed : patch.username with
    | none => simpa [patchRow, claimed] using different
    | some username =>
      have unclaimed : Cell.text username ≠ other.username :=
        fun same => unpatched (free username claimed other present same.symm)
      simpa [patchRow, claimed] using unclaimed
  dsimp only [Function.comp_apply, AccountRow.patched]
  split
  · rename_i first_patched
    have second_unpatched : second.email ≠ .text email :=
      fun same => other_email (first_patched.trans same.symm)
    rw [if_neg second_unpatched]
    exact apart also_there second_unpatched other_username
  · rename_i first_unpatched
    split
    · exact (apart there first_unpatched other_username.symm).symm
    · exact other_username

/-- A row that is put in its place is a row more. -/
theorem place_perm {α : Type} (id : α → Int64) (row : α) (rows : List α) :
    (place id row rows).Perm (row :: rows) := by
  unfold place
  refine List.perm_middle.trans ?_
  rw [List.takeWhile_append_dropWhile]

/-- A change of rows that leaves a field alone leaves the values of the field alone. -/
theorem map_map_of_kept {α β : Type} {change : α → α} {field : α → β} (rows : List α)
    (kept : ∀ row, field (change row) = field row) :
    (rows.map change).map field = rows.map field := by
  rw [List.map_map]
  exact List.map_congr_left fun row _ => kept row

namespace Integrity

variable {before after : Tables} {triggers : List Trigger} {stamp : Cell}

/-- Opening an account keeps the promises. -/
theorem insertAccount {account : NewAccount} (sane : before.Integrity)
    (done : Tables.insertAccount triggers account stamp before = .ok after) : after.Integrity := by
  obtain ⟨id, next, free, rfl⟩ := insertAccount_eq_ok done
  exact { sane with
    accountIds := sane.accountIds.append (nextId_ok next) rfl
    emails := nodup_map_append sane.emails fun other there => (free other there).2
    usernames := nodup_map_append sane.usernames fun other there => (free other there).1
    authors := fun row there => by
      rw [List.map_append]
      exact (sane.authors row there).append _
    commenters := fun row there => by
      rw [List.map_append]
      exact (sane.commenters row there).append _ }

/-- Changing an account keeps the promises. -/
theorem updateAccount {email : String} {patch : AccountPatch} {count : Nat} (sane : before.Integrity)
    (done : Tables.updateAccount triggers email patch stamp before = .ok (count, after)) :
    after.Integrity := by
  rcases updateAccount_eq_ok done with ⟨-, rfl, -⟩ | ⟨-, -, free, rfl⟩
  · exact sane
  · have same_ids : (before.accounts.map (AccountRow.patched email patch stamp)).map AccountRow.id =
        before.accounts.map AccountRow.id := map_map_of_kept _ (AccountRow.patched_id email patch)
    exact { sane with
      accountIds := sane.accountIds.map (AccountRow.patched_id email patch)
      emails := by
        rw [map_map_of_kept _ (AccountRow.patched_email email patch)]
        exact sane.emails
      usernames := nodup_usernames_patched sane.emails sane.usernames free
      authors := fun row there => same_ids ▸ sane.authors row there
      commenters := fun row there => same_ids ▸ sane.commenters row there }

/-- Asking for a tag keeps the promises. -/
theorem upsertTag {name : String} (sane : before.Integrity)
    (done : Tables.upsertTag triggers name before = .ok after) : after.Integrity := by
  obtain ⟨id, next, ⟨-, rfl⟩ | ⟨new, rfl⟩⟩ := upsertTag_eq_ok done
  · exact { sane with tagIds := sane.tagIds.skip (Int64.le_of_lt (nextId_ok next)) }
  · exact { sane with
      tagIds := sane.tagIds.append (nextId_ok next) rfl
      tagNames := nodup_map_append sane.tagNames new
      linked := fun link there => by
        rw [List.map_append]
        exact ⟨(sane.linked link there).1, (sane.linked link there).2.append _⟩ }

/-- Adding an article with a slug keeps the promises. -/
theorem insertArticle {article : NewArticle} {id : Int64} (sane : before.Integrity)
    (named : article.slug ≠ "")
    (done : Tables.insertArticle triggers article stamp before = .ok (id, after)) :
    after.Integrity := by
  have one := sane.oneActive.insertArticle done
  obtain ⟨next, -, known, rfl⟩ := insertArticle_eq_ok done
  exact { sane with
    articleIds := sane.articleIds.append (nextId_ok next) rfl
    oneActive := one
    slugs := List.forall_mem_append.mpr ⟨sane.slugs, List.forall_mem_singleton.mpr
      fun empty => named (Cell.text.inj empty)⟩
    linked := fun link there => by
      rw [List.map_append]
      exact ⟨(sane.linked link there).1.append _, (sane.linked link there).2⟩
    unlinked := List.forall_mem_append.mpr ⟨sane.unlinked, List.forall_mem_singleton.mpr
      fun inactive => absurd inactive (by simp [ArticleRow.isActive, NewArticle.row])⟩
    authors := List.forall_mem_append.mpr ⟨sane.authors, List.forall_mem_singleton.mpr
      (refers_of_account? known)⟩ }

/-- Attaching a tag to an active article keeps the promises. -/
theorem insertLink {articleId tagId : Int64} (sane : before.Integrity)
    (active : ∃ row ∈ before.articles, row.id = articleId ∧ row.isActive)
    (done : Tables.insertLink triggers articleId tagId before = .ok after) : after.Integrity := by
  obtain ⟨free, -, tag_known, rfl⟩ := insertLink_eq_ok done
  obtain ⟨article, present, own, active⟩ := active
  exact { sane with
    pairs := by
      rw [((place_perm _ _ _).map _).nodup_iff, List.map_cons, List.nodup_cons]
      refine ⟨?_, sane.pairs⟩
      intro taken
      obtain ⟨other, there, same⟩ := List.mem_map.mp taken
      obtain ⟨same_article, same_tag⟩ := Prod.mk.inj same
      exact free other there same_article same_tag
    linked := by
      intro link there
      rcases mem_place there with rfl | old
      · exact ⟨⟨article.id, List.mem_map_of_mem present, by rw [own]⟩, refers_of_tag? tag_known⟩
      · exact sane.linked link old
    unlinked := by
      intro row there inactive link attached
      rcases mem_place attached with rfl | old
      · intro same
        have same_row : row = article :=
          sane.articleIds.eq_of_id there present ((Cell.integer.inj same).symm.trans own.symm)
        rw [same_row, active] at inactive
        cases inactive
      · exact sane.unlinked row there inactive link old }

/-- Deleting an article and then detaching its tags keeps the promises. -/
theorem removeArticle {authorId id : Int64} {slug : String} {unix : Cell} {between : Tables}
    (sane : before.Integrity)
    (marked : tombstoneArticle triggers authorId slug unix stamp before = .ok (some id, between))
    (done : deleteLinks triggers id between = .ok after) : after.Integrity := by
  have one := (sane.oneActive.removes (removes_tombstoneArticle marked)).removes
    (removes_deleteLinks done)
  obtain ⟨never, -⟩ | ⟨found, there, owned, same_id, rfl⟩ := tombstoneArticle_eq_ok marked
  · cases never
  cases same_id
  obtain rfl := deleteLinks_eq_ok done
  have active {row : ArticleRow} (present : row ∈ before.articles)
      (owned : row.ownedBy authorId slug) : row ∈ before.activeWithSlug slug := by
    simp only [ArticleRow.ownedBy, Bool.and_eq_true, decide_eq_true_eq] at owned
    exact List.mem_filter.mpr ⟨present, by simp [owned.1.1, owned.2]⟩
  exact { sane with
    articleIds := sane.articleIds.map (ArticleRow.marked_id authorId slug)
    oneActive := one
    slugs := List.forall_mem_map.mpr fun row present => by
      rw [ArticleRow.marked_slug]
      exact sane.slugs row present
    pairs := (List.filter_sublist.map _).nodup sane.pairs
    linked := by
      intro link kept
      rw [map_map_of_kept _ (ArticleRow.marked_id authorId slug)]
      exact sane.linked link (List.mem_of_mem_filter kept)
    unlinked := List.forall_mem_map.mpr fun row present inactive link kept => by
      obtain ⟨attached, other⟩ := List.mem_filter.mp kept
      rw [ArticleRow.marked_id]
      by_cases marked : row.ownedBy authorId slug
      · -- the article that has been marked is the one whose links are gone
        rw [sane.oneActive.eq (active present marked) (active there owned)]
        simpa using other
      · rw [ArticleRow.marked, if_neg marked] at inactive
        exact sane.unlinked row present inactive link attached
    authors := List.forall_mem_map.mpr fun row present => by
      rw [ArticleRow.marked_authorId]
      exact sane.authors row present }

/-- Adding a comment keeps the promises. -/
theorem insertComment {slug : String} {comment : NewComment} {id : Int64} (sane : before.Integrity)
    (done : Tables.insertComment triggers slug comment stamp before = .ok (id, after)) :
    after.Integrity := by
  obtain ⟨next, known, rfl⟩ := insertComment_eq_ok done
  exact { sane with
    commentIds := sane.commentIds.append (nextId_ok next) rfl
    commenters := List.forall_mem_append.mpr ⟨sane.commenters, List.forall_mem_singleton.mpr
      (refers_of_account? known)⟩ }

/-- Deleting comments keeps the promises. -/
theorem tombstoneComments {chosen : CommentRow → Bool} {count : Nat} (sane : before.Integrity)
    (done : Tables.tombstoneComments triggers chosen stamp before = .ok (count, after)) :
    after.Integrity := by
  obtain ⟨-, -, rfl⟩ := tombstoneComments_eq_ok done
  exact { sane with
    commentIds := sane.commentIds.map (CommentRow.marked_id chosen)
    commenters := List.forall_mem_map.mpr fun row present => by
      rw [CommentRow.marked_authorId]
      exact sane.commenters row present }

variable {tables : Tables}

/-- A reference with a target among the accounts leads to one. -/
theorem account?_isSome {reference : Cell}
    (known : Refers (tables.accounts.map AccountRow.id) reference) :
    (tables.account? reference).isSome := by
  obtain ⟨id, there, rfl⟩ := known
  obtain ⟨row, present, rfl⟩ := List.mem_map.mp there
  unfold account?
  rw [List.find?_isSome]
  exact ⟨row, present, by simp⟩

/-- A reference with a target among the tags leads to one. -/
theorem tag?_isSome {reference : Cell} (known : Refers (tables.tags.map TagRow.id) reference) :
    (tables.tag? reference).isSome := by
  obtain ⟨id, there, rfl⟩ := known
  obtain ⟨row, present, rfl⟩ := List.mem_map.mp there
  unfold tag?
  rw [List.find?_isSome]
  exact ⟨row, present, by simp⟩

/-- Tables that keep their promises are sound. -/
theorem sound (sane : tables.Integrity) : tables.Sound where
  distinct := sane.articleIds.distinct
  given := sane.articleIds.given
  authors row there := account?_isSome (sane.authors row there)
  attached link there := tag?_isSome (sane.linked link there).2

end Integrity

/-- A join that finds a partner for every row drops none. -/
theorem length_filterMap_of_isSome {α β : Type} {join : α → Option β} {rows : List α}
    (whole : ∀ row ∈ rows, (join row).isSome) : (rows.filterMap join).length = rows.length := by
  rw [List.length_filterMap_eq_countP, List.countP_eq_length]
  exact whole

/-- The joins of the queries drop no row that has been selected. -/
structure JoinsWhole (tables : Tables) : Prop where
  article (slug : String) :
    ((tables.activeWithSlug slug).filterMap tables.articleColumns?).length =
      (tables.activeWithSlug slug).length
  tags (articleId : Int64) : (tables.tagRows articleId).length =
    (tables.links.filter fun row => row.articleId = .integer articleId).length
  listed (ids : List Int64) :
    (((tables.articles.filter fun row => row.id ∈ ids).reverse).filterMap
      tables.articleColumns?).length = (tables.articles.filter fun row => row.id ∈ ids).length
  listedTags (ids : List Int64) : (tables.linkRows ids).length =
    (tables.links.filter fun row => row.articleId ∈ ids.map Cell.integer).length
  savedComment (id : Int64) :
    ((tables.comments.filter fun row => row.id = id).filterMap tables.commentColumns?).length =
      (tables.comments.filter fun row => row.id = id).length
  comments (slug : String) :
    (((tables.comments.filter fun row => row.slug = .text slug && row.isLive).reverse).filterMap
      tables.commentColumns?).length =
      (tables.comments.filter fun row => row.slug = .text slug && row.isLive).length

/-- With every reference having its target, the joins are whole. -/
theorem Integrity.joinsWhole {tables : Tables} (sane : tables.Integrity) : tables.JoinsWhole := by
  have article (row : ArticleRow) (there : row ∈ tables.articles) :
      (tables.articleColumns? row).isSome := by
    unfold articleColumns?
    rw [Option.isSome_map]
    exact account?_isSome (sane.authors row there)
  have comment (row : CommentRow) (there : row ∈ tables.comments) :
      (tables.commentColumns? row).isSome := by
    unfold commentColumns?
    rw [Option.isSome_map]
    exact account?_isSome (sane.commenters row there)
  have tag (link : LinkRow) (there : link ∈ tables.links) : (tables.tag? link.tagId).isSome :=
    tag?_isSome (sane.linked link there).2
  constructor
  case article =>
    intro slug
    exact length_filterMap_of_isSome fun row there => article row (List.mem_of_mem_filter there)
  case tags =>
    intro id
    apply length_filterMap_of_isSome
    intro link there
    rw [Option.isSome_map]
    exact tag link (List.mem_of_mem_filter there)
  case listed =>
    intro ids
    refine (length_filterMap_of_isSome ?_).trans List.length_reverse
    intro row there
    exact article row (List.mem_of_mem_filter (List.mem_reverse.mp there))
  case listedTags =>
    intro ids
    apply length_filterMap_of_isSome
    intro link there
    unfold linkColumns?
    rw [Option.isSome_map]
    exact tag link (List.mem_of_mem_filter there)
  case savedComment =>
    intro id
    exact length_filterMap_of_isSome fun row there => comment row (List.mem_of_mem_filter there)
  case comments =>
    intro slug
    refine (length_filterMap_of_isSome ?_).trans List.length_reverse
    intro row there
    exact comment row (List.mem_of_mem_filter (List.mem_reverse.mp there))

end Tables

end Gazette
