import Mathlib.Data.List.Basic
import Gazette.Proofs.Storage.Follows

/-!
# What each change does

For each change of the tables it is told once what has been the case and what has become of the
tables if it has been made, and why it can be refused when no trigger speaks.
-/

set_option autoImplicit false

namespace Gazette

section Errors

variable {ε α β : Type}

/-- Of two steps that may fail, the first or the second has. -/
theorem bind_error_iff {first : Except ε α} {next : α → Except ε β} {error : ε} :
    (first >>= next) = .error error ↔
      first = .error error ∨ ∃ value, first = .ok value ∧ next value = .error error := by
  cases first with
  | error cause => simp [bind, Except.bind]
  | ok value => simp [bind, Except.bind]

/-- What only answers with a value does not fail. -/
theorem pure_ne_error {value : α} {error : ε} : (pure value : Except ε α) ≠ .error error :=
  nofun

/-- A step that is refused has been refused, or what comes after it has failed. -/
theorem unless_error_iff {refused : Prop} [Decidable refused] {cause error : ε}
    {next : β → Except ε α} {rest : Except ε α} :
    (if refused then throw cause >>= next else rest) = .error error ↔
      refused ∧ cause = error ∨ ¬ refused ∧ rest = .error error := by
  by_cases h : refused
  · simp [h, throw, throwThe, MonadExceptOf.throw, bind, Except.bind]
  · simp [h]

/-- There is no next id only if the largest one has been given out. -/
theorem nextId_error {last : Int64} {refusal : Refusal} (h : nextId last = .error refusal) :
    refusal = .full ∧ last = Int64.maxValue := by
  unfold nextId at h
  split at h
  · rename_i all
    exact ⟨(Except.error.inj h).symm, all⟩
  · cases h

/-- If there is a next id, the largest one has not been given out. -/
theorem ne_of_nextId {last id : Int64} (h : nextId last = .ok id) : last ≠ Int64.maxValue := by
  rintro rfl
  cases h

/-- Where there are no triggers, none fires. -/
theorem Trigger.fire_nil (table : TableName) (event : RowEvent) :
    Trigger.fire [] table event = .ok () :=
  rfl

end Errors

/-- The row of a new account. -/
def NewAccount.row (account : NewAccount) (id : Int64) (stamp : Cell) : AccountRow where
  id := id
  username := .text account.username
  email := .text account.email
  password := .text account.password
  bio := .text account.bio
  image := .text account.image
  disabled := .integer 0
  createdAt := stamp
  updatedAt := stamp

/-- The row of a new article. -/
def NewArticle.row (article : NewArticle) (id : Int64) (stamp : Cell) : ArticleRow where
  id := id
  slug := .text article.slug
  title := .text article.title
  body := .text article.body
  authorId := .integer article.authorId
  createdAt := stamp
  updatedAt := stamp
  deletedAtUnix := .integer 0

/-- The row of a new comment. -/
def NewComment.row (comment : NewComment) (slug : String) (id : Int64) (stamp : Cell) :
    CommentRow where
  id := id
  body := .text comment.body
  slug := .text slug
  authorId := .integer comment.authorId
  createdAt := stamp
  updatedAt := stamp
  deletedAt := .null

/-- Whether a row is an author's active article with a slug. -/
def ArticleRow.ownedBy (authorId : Int64) (slug : String) (row : ArticleRow) : Bool :=
  row.slug = .text slug && row.authorId = .integer authorId && row.isActive

/-- A row after an update of the account with an email. -/
def AccountRow.patched (email : String) (patch : AccountPatch) (stamp : Cell) (row : AccountRow) :
    AccountRow :=
  if row.email = .text email then Tables.patchRow patch stamp row else row

/-- A row after the deletion of an author's article with a slug. -/
def ArticleRow.marked (authorId : Int64) (slug : String) (unix stamp : Cell) (row : ArticleRow) :
    ArticleRow :=
  if row.ownedBy authorId slug then { row with deletedAtUnix := unix, updatedAt := stamp } else row

/-- A row after the deletion of the comments that are chosen. -/
def CommentRow.marked (chosen : CommentRow → Bool) (stamp : Cell) (row : CommentRow) : CommentRow :=
  if chosen row && row.isLive then { row with deletedAt := stamp } else row

section Fields

variable {stamp unix : Cell}

/-- A patch does not change the id of an account. -/
@[simp]
theorem AccountRow.patched_id (email : String) (patch : AccountPatch) (row : AccountRow) :
    (row.patched email patch stamp).id = row.id := by
  unfold patched
  split <;> rfl

/-- A patch does not change the email of an account. -/
@[simp]
theorem AccountRow.patched_email (email : String) (patch : AccountPatch) (row : AccountRow) :
    (row.patched email patch stamp).email = row.email := by
  unfold patched
  split <;> rfl

/-- A mark does not change the id of an article. -/
@[simp]
theorem ArticleRow.marked_id (authorId : Int64) (slug : String) (row : ArticleRow) :
    (row.marked authorId slug unix stamp).id = row.id := by
  unfold marked
  split <;> rfl

/-- A mark does not change the slug of an article. -/
@[simp]
theorem ArticleRow.marked_slug (authorId : Int64) (slug : String) (row : ArticleRow) :
    (row.marked authorId slug unix stamp).slug = row.slug := by
  unfold marked
  split <;> rfl

/-- A mark does not change the author of an article. -/
@[simp]
theorem ArticleRow.marked_authorId (authorId : Int64) (slug : String) (row : ArticleRow) :
    (row.marked authorId slug unix stamp).authorId = row.authorId := by
  unfold marked
  split <;> rfl

/-- A mark does not change the id of a comment. -/
@[simp]
theorem CommentRow.marked_id (chosen : CommentRow → Bool) (row : CommentRow) :
    (row.marked chosen stamp).id = row.id := by
  unfold marked
  split <;> rfl

/-- A mark does not change the slug of a comment. -/
@[simp]
theorem CommentRow.marked_slug (chosen : CommentRow → Bool) (row : CommentRow) :
    (row.marked chosen stamp).slug = row.slug := by
  unfold marked
  split <;> rfl

/-- A mark does not change the author of a comment. -/
@[simp]
theorem CommentRow.marked_authorId (chosen : CommentRow → Bool) (row : CommentRow) :
    (row.marked chosen stamp).authorId = row.authorId := by
  unfold marked
  split <;> rfl

end Fields

namespace Tables

variable {triggers : List Trigger} {tables after : Tables} {stamp : Cell} {refusal : Refusal}

section Accounts

variable {account : NewAccount} {email : String} {patch : AccountPatch} {count : Nat}

/-- A new account has a new id and an email and a username that nobody has had. -/
theorem insertAccount_eq_ok (done : insertAccount triggers account stamp tables = .ok after) :
    ∃ id, nextId tables.lastAccount = .ok id ∧
      (∀ row ∈ tables.accounts,
        row.username ≠ .text account.username ∧ row.email ≠ .text account.email) ∧
      after = { tables with
        accounts := tables.accounts ++ [account.row id stamp], lastAccount := id } := by
  simp only [insertAccount, bind_ok_iff, unless_ok_iff, pure_ok_iff] at done
  obtain ⟨-, -, id, next, free, rfl⟩ := done
  refine ⟨id, next, ?_, rfl⟩
  simpa using free

/-- Without triggers a new account is refused for lack of ids, or because somebody has its email or
its username. -/
theorem insertAccount_error
    (h : insertAccount [] account stamp tables = .error refusal) :
    refusal = .full ∧ tables.lastAccount = Int64.maxValue ∨
      refusal = .taken ∧ tables.lastAccount ≠ Int64.maxValue ∧ ∃ row ∈ tables.accounts,
        row.username = .text account.username ∨ row.email = .text account.email := by
  simp only [insertAccount, Trigger.fire_nil, bind_error_iff, unless_error_iff] at h
  rcases h with never | ⟨-, -, unnumbered | ⟨_, next, ⟨claimed, taken⟩ | ⟨-, never⟩⟩⟩
  · cases never
  · exact .inl (nextId_error unnumbered)
  · exact .inr ⟨taken.symm, ne_of_nextId next, by simpa using claimed⟩
  · exact (pure_ne_error never).elim

/-- A patch changes nothing if nobody has the email; or else it changes the account with the email
and takes no username of another one. -/
theorem updateAccount_eq_ok
    (done : updateAccount triggers email patch stamp tables = .ok (count, after)) :
    (count = 0 ∧ after = tables ∧ ∀ row ∈ tables.accounts, row.email ≠ .text email) ∨
      count ≠ 0 ∧ (∃ row ∈ tables.accounts, row.email = .text email) ∧
        (∀ username, patch.username = some username → ∀ row ∈ tables.accounts,
          row.username = .text username → row.email = .text email) ∧
        after = { tables with
          accounts := tables.accounts.map (AccountRow.patched email patch stamp) } := by
  unfold updateAccount at done
  dsimp only at done
  split at done
  · rename_i nobody
    cases pure_ok_iff.mp done
    exact .inl ⟨rfl, rfl, by simpa using nobody⟩
  · rename_i somebody
    simp only [bind_ok_iff, unless_ok_iff, pure_ok_iff, Prod.mk.injEq] at done
    obtain ⟨-, -, free, rfl, rfl⟩ := done
    refine .inr ⟨mt List.length_eq_zero_iff.mp somebody, by simpa using somebody, ?_, rfl⟩
    intro username claimed row there taken
    by_contra other
    exact free (List.any_eq_true.mpr ⟨row, there, by simp [claimed, taken, other]⟩)

/-- Without triggers a patch is refused only because another account has its username. -/
theorem updateAccount_error
    (h : updateAccount [] email patch stamp tables = .error refusal) :
    refusal = .taken ∧ (∃ row ∈ tables.accounts, row.email = .text email) ∧
      ∃ username, patch.username = some username ∧ ∃ row ∈ tables.accounts,
        row.username = .text username ∧ row.email ≠ .text email := by
  unfold updateAccount at h
  dsimp only at h
  split at h
  · exact (pure_ne_error h).elim
  · rename_i somebody
    simp only [Trigger.fire_nil, bind_error_iff, unless_error_iff] at h
    rcases h with never | ⟨-, -, ⟨claimed, taken⟩ | ⟨-, never⟩⟩
    · cases never
    · refine ⟨taken.symm, by simpa using somebody, ?_⟩
      obtain ⟨row, there, claims⟩ := List.any_eq_true.mp claimed
      cases given : patch.username with
      | none => simp [given] at claims
      | some username => exact ⟨username, rfl, row, there, by simpa [given] using claims⟩
    · exact (pure_ne_error never).elim

end Accounts

section Articles

variable {article : NewArticle} {name slug : String} {id authorId articleId tagId : Int64}
  {unix : Cell} {chosen : Option Int64}

/-- Asking for a tag uses up an id, and adds the tag if there is none with the name. -/
theorem upsertTag_eq_ok (done : upsertTag triggers name tables = .ok after) :
    ∃ id, nextId tables.lastTag = .ok id ∧
      ((∃ row ∈ tables.tags, row.name = .text name) ∧ after = { tables with lastTag := id } ∨
        (∀ row ∈ tables.tags, row.name ≠ .text name) ∧
          after = { tables with tags := tables.tags ++ [⟨id, .text name⟩], lastTag := id }) := by
  simp only [upsertTag, bind_ok_iff] at done
  obtain ⟨-, -, id, next, made⟩ := done
  refine ⟨id, next, ?_⟩
  split at made
  · rename_i known
    exact .inl ⟨by simpa using known, (pure_ok_iff.mp made).symm⟩
  · rename_i new
    exact .inr ⟨by simpa using new, (pure_ok_iff.mp made).symm⟩

/-- Without triggers a tag is refused only for lack of ids. -/
theorem upsertTag_error (h : upsertTag [] name tables = .error refusal) :
    refusal = .full := by
  simp only [upsertTag, Trigger.fire_nil, bind_error_iff] at h
  rcases h with never | ⟨-, -, unnumbered | ⟨_, -, never⟩⟩
  · cases never
  · exact (nextId_error unnumbered).1
  · split at never <;> exact (pure_ne_error never).elim

/-- A new article has a new id, a slug that no active article has had, and an author. -/
theorem insertArticle_eq_ok (done : insertArticle triggers article stamp tables = .ok (id, after)) :
    nextId tables.lastArticle = .ok id ∧ tables.activeWithSlug article.slug = [] ∧
      (tables.account? (.integer article.authorId)).isSome ∧
      after = { tables with
        articles := tables.articles ++ [article.row id stamp], lastArticle := id } := by
  simp only [insertArticle, bind_ok_iff, unless_ok_iff, pure_ok_iff, Prod.mk.injEq] at done
  obtain ⟨-, -, given, next, free, known, rfl, rfl⟩ := done
  exact ⟨next, Decidable.not_not.mp free, Option.isSome_iff_ne_none.mpr (by simpa using known), rfl⟩

/-- Without triggers a new article is refused for lack of ids, or for its slug or its author. -/
theorem insertArticle_error
    (h : insertArticle [] article stamp tables = .error refusal) :
    refusal = .full ∨ refusal = .taken ∨ refusal = .dangling := by
  simp only [insertArticle, Trigger.fire_nil, bind_error_iff, unless_error_iff] at h
  rcases h with never | ⟨-, -, unnumbered | ⟨_, -, ⟨-, taken⟩ | ⟨-, ⟨-, dangling⟩ | ⟨-, never⟩⟩⟩⟩
  · cases never
  · exact .inl (nextId_error unnumbered).1
  · exact .inr (.inl taken.symm)
  · exact .inr (.inr dangling.symm)
  · exact (pure_ne_error never).elim

/-- A new link attaches a tag that the article has not had; both exist. -/
theorem insertLink_eq_ok (done : insertLink triggers articleId tagId tables = .ok after) :
    (∀ link ∈ tables.links, link.articleId = .integer articleId → link.tagId ≠ .integer tagId) ∧
      (∃ article ∈ tables.articles, article.id = articleId) ∧
      (tables.tag? (.integer tagId)).isSome ∧
      after = { tables with
        links := place LinkRow.id ⟨tables.nextLink, .integer articleId, .integer tagId⟩
          tables.links } := by
  simp only [insertLink, bind_ok_iff, unless_ok_iff, pure_ok_iff] at done
  obtain ⟨-, -, free, known, rfl⟩ := done
  simp only [Bool.or_eq_true, not_or, Bool.not_eq_true, Bool.not_eq_true',
    Option.isNone_eq_false_iff] at known
  refine ⟨by simpa using free, ?_, known.2, rfl⟩
  simpa using known.1

/-- Without triggers a link is refused if it is there, or if the article or the tag is not. -/
theorem insertLink_error
    (h : insertLink [] articleId tagId tables = .error refusal) :
    (refusal = .takenKey ∧ ∃ link ∈ tables.links, link.articleId = .integer articleId ∧
        link.tagId = .integer tagId) ∨
      refusal = .dangling ∧ ((∀ article ∈ tables.articles, article.id ≠ articleId) ∨
        (tables.tag? (.integer tagId)).isNone) := by
  simp only [insertLink, Trigger.fire_nil, bind_error_iff, unless_error_iff] at h
  rcases h with never | ⟨-, -, ⟨there, taken⟩ | ⟨-, ⟨missing, dangling⟩ | ⟨-, never⟩⟩⟩
  · cases never
  · obtain ⟨link, present, same⟩ := List.any_eq_true.mp there
    simp only [Bool.and_eq_true, decide_eq_true_eq] at same
    exact .inl ⟨taken.symm, link, present, same⟩
  · refine .inr ⟨dangling.symm, ?_⟩
    simpa using missing
  · exact (pure_ne_error never).elim

/-- Marking an article as deleted changes nothing if the author has none with the slug; or else it
dates the tombstone of the one that is found, and of any other that is like it. -/
theorem tombstoneArticle_eq_ok
    (done : tombstoneArticle triggers authorId slug unix stamp tables = .ok (chosen, after)) :
    (chosen = none ∧ after = tables ∧ ∀ row ∈ tables.articles, row.ownedBy authorId slug = false) ∨
      ∃ row ∈ tables.articles, row.ownedBy authorId slug ∧ chosen = some row.id ∧
        after = { tables with
          articles := tables.articles.map (ArticleRow.marked authorId slug unix stamp) } := by
  unfold tombstoneArticle at done
  dsimp only at done
  split at done
  · rename_i nothing
    cases pure_ok_iff.mp done
    refine .inl ⟨rfl, rfl, ?_⟩
    intro row there
    exact Bool.not_eq_true _ ▸ List.find?_eq_none.mp nothing row there
  · rename_i row found
    simp only [bind_ok_iff, pure_ok_iff, Prod.mk.injEq] at done
    obtain ⟨-, -, rfl, rfl⟩ := done
    exact .inr ⟨row, List.mem_of_find?_eq_some found, List.find?_some found, rfl, rfl⟩

/-- Without triggers an article can always be marked as deleted, and links can be taken away. -/
theorem tombstoneArticle_ne_error :
    tombstoneArticle [] authorId slug unix stamp tables ≠ .error refusal := by
  unfold tombstoneArticle
  dsimp only
  split
  · exact pure_ne_error
  · exact pure_ne_error

/-- Detaching the tags of an article takes its links away and nothing else. -/
theorem deleteLinks_eq_ok (done : deleteLinks triggers articleId tables = .ok after) :
    after = { tables with
      links := tables.links.filter fun row => row.articleId ≠ .integer articleId } := by
  unfold deleteLinks at done
  split at done
  · simp only [bind_ok_iff, pure_ok_iff] at done
    obtain ⟨-, -, rfl⟩ := done
    rfl
  · exact (pure_ok_iff.mp done).symm

/-- Without triggers the tags of an article can always be detached. -/
theorem deleteLinks_ne_error :
    deleteLinks [] articleId tables ≠ .error refusal := by
  unfold deleteLinks
  split
  · exact pure_ne_error
  · exact pure_ne_error

end Articles

section Comments

variable {comment : NewComment} {slug : String} {id : Int64} {chosen : CommentRow → Bool}
  {count : Nat}

/-- A new comment has a new id and an author. -/
theorem insertComment_eq_ok
    (done : insertComment triggers slug comment stamp tables = .ok (id, after)) :
    nextId tables.lastComment = .ok id ∧ (tables.account? (.integer comment.authorId)).isSome ∧
      after = { tables with
        comments := tables.comments ++ [comment.row slug id stamp], lastComment := id } := by
  simp only [insertComment, bind_ok_iff, unless_ok_iff, pure_ok_iff, Prod.mk.injEq] at done
  obtain ⟨-, -, given, next, known, rfl, rfl⟩ := done
  exact ⟨next, Option.isSome_iff_ne_none.mpr (by simpa using known), rfl⟩

/-- Without triggers a new comment is refused for lack of ids, or for its author. -/
theorem insertComment_error
    (h : insertComment [] slug comment stamp tables = .error refusal) :
    refusal = .full ∨ refusal = .dangling := by
  simp only [insertComment, Trigger.fire_nil, bind_error_iff, unless_error_iff] at h
  rcases h with never | ⟨-, -, unnumbered | ⟨_, -, ⟨-, dangling⟩ | ⟨-, never⟩⟩⟩
  · cases never
  · exact .inl (nextId_error unnumbered).1
  · exact .inr dangling.symm
  · exact (pure_ne_error never).elim

/-- Marking comments as deleted dates the tombstones of those that are chosen and live. -/
theorem tombstoneComments_eq_ok
    (done : tombstoneComments triggers chosen stamp tables = .ok (count, after)) :
    count = tables.comments.countP (fun row => chosen row && row.isLive) ∧
      (count = 0 → after = tables) ∧
      after = { tables with
        comments := tables.comments.map (CommentRow.marked chosen stamp) } := by
  unfold tombstoneComments at done
  dsimp only at done
  split at done
  · rename_i none_chosen
    cases pure_ok_iff.mp done
    refine ⟨none_chosen.symm, fun _ => rfl, ?_⟩
    have same : tables.comments.map (CommentRow.marked chosen stamp) = tables.comments := by
      have unmarked : ∀ row ∈ tables.comments, row.marked chosen stamp = id row := by
        intro row there
        exact if_neg (List.countP_eq_zero.mp none_chosen row there)
      rw [List.map_congr_left unmarked, List.map_id]
    rw [same]
  · rename_i some_chosen
    simp only [bind_ok_iff, pure_ok_iff, Prod.mk.injEq] at done
    obtain ⟨-, -, rfl, rfl⟩ := done
    exact ⟨rfl, fun none_chosen => absurd none_chosen some_chosen, rfl⟩

/-- Without triggers comments can always be marked as deleted. -/
theorem tombstoneComments_ne_error :
    tombstoneComments [] chosen stamp tables ≠ .error refusal := by
  unfold tombstoneComments
  dsimp only
  split
  · exact pure_ne_error
  · exact pure_ne_error

end Comments

end Tables

end Gazette
