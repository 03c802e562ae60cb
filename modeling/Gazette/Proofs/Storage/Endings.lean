import Mathlib.Data.List.Basic
import Gazette.Proofs.Storage.Steps

/-!
# How the steps end

On orderly tables a step does what it is told to make of the tables and nothing else.  What has just
been saved is found again, unless its stamp cannot be read back, so that a step which has written
fails for no other reason.
-/

set_option autoImplicit false

namespace Gazette

open Tables Session Database

variable {setting : Setting} {start : Tables}

/-- Of rows none of which is wanted and a last one that is, the last one is chosen. -/
theorem filter_append_new {α : Type} {wanted : α → Bool} {rows : List α} {row : α}
    (others : ∀ other ∈ rows, wanted other = false) (own : wanted row = true) :
    (rows ++ [row]).filter wanted = [row] := by
  rw [List.filter_append, List.filter_eq_nil_iff.mpr (by simpa using others), List.filter_singleton,
    own]
  rfl

/-- A new id has not been given to one of the rows. -/
theorem Tables.Numbered.ne_next {α : Type} {id : α → Int64} {last next : Int64} {rows : List α}
    (numbered : Numbered id last rows) (given : nextId last = .ok next) {row : α}
    (there : row ∈ rows) : id row ≠ next := by
  intro same
  have below := Int64.lt_of_le_of_lt (numbered.given row there) (nextId_ok given)
  rw [same] at below
  exact Int64.lt_irrefl below

namespace Database

section Queries

variable {pre : Tables → Prop}

/-- What only reads leaves the tables as they are, whatever it answers. -/
theorem meets_read {α : Type} {needs : List TableName} {entity id : String}
    {read : Tables → Except EngineError α} :
    Meets setting pre (Engine.about (query needs read) entity id) (fun _ => pre) fun _ => pre :=
  meets_query (fun _ _ given _ => given) fun _ _ given _ => given

/-- The lookup of an account leaves the tables as they are. -/
theorem meets_findAccount (email : String) :
    Meets setting pre (findAccount email) (fun _ => pre) fun _ => pre :=
  meets_read

/-- The lookup of an article leaves the tables as they are. -/
theorem meets_findArticle (slug : String) :
    Meets setting pre (findArticle slug) (fun _ => pre) fun _ => pre :=
  meets_bind meets_read fun _ => meets_bind meets_read fun _ => meets_pure fun _ given => given

/-- A listing leaves the tables as they are. -/
theorem meets_listArticles (tagBatch : Nat) (criteria : ArticleCriteria) :
    Meets setting pre (listArticles tagBatch criteria) (fun _ => pre) fun _ => pre := by
  refine meets_bind meets_read fun total => meets_bind meets_read fun ids => ?_
  split
  · exact meets_pure fun _ given => given
  · refine meets_bind meets_read fun bare => ?_
    refine meets_bind (meets_mapM (motive := fun _ _ => pre) fun _ _ _ _ _ => ?_) fun links => ?_
    · exact meets_read
    · exact meets_pure fun _ given => given

/-- The lookup of comments leaves the tables as they are. -/
theorem meets_findComments (slug : String) :
    Meets setting pre (findComments slug) (fun _ => pre) fun _ => pre :=
  meets_read

end Queries

section Accounts

/-- An account that has just been saved is read back if its stamp is. -/
theorem read_saved_account {account : NewAccount} {stamp : Instant} {after : Tables}
    (done : insertAccount [] account (.text stamp.stored) start = .ok after)
    (back : stamp.ReadsBack) :
    ∃ saved, firstRow Row.account
      ((after.accounts.filter fun row => row.email = .text account.email).map AccountRow.columns) =
        .ok saved := by
  obtain ⟨id, -, free, rfl⟩ := insertAccount_eq_ok done
  rw [filter_append_new fun row there => decide_eq_false (free row there).2]
  · exact (account.written_row id back).read
  · exact decide_eq_true rfl

/-- Saving an account makes of the tables what its step may make of them. -/
theorem meets_saveAccount (account : NewAccount) :
    Meets setting (fun tables => tables = start) (saveAccount account)
      (fun _ => (Step.saveAccount account).Makes setting false start)
      fun _ => (Step.saveAccount account).Makes setting true start := by
  apply meets_now
  intro stamp dated
  have saved : Meets setting (fun tables => tables = start)
      (Engine.about (execute [.itself .accounts] fun triggers =>
        insertAccount triggers account (.text stamp.stored)) accountEntity account.email)
      (fun _ tables => insertAccount [] account (.text stamp.stored) start = .ok tables)
      fun _ => (Step.saveAccount account).Makes setting true start := by
    apply meets_execute
    · rintro tables after rfl done
      exact done
    · rintro tables refusal rfl refused
      rcases insertAccount_error refused with ⟨rfl, -⟩ | ⟨rfl, -⟩
      · exact ⟨fun _ => rfl, fun _ => .nothing⟩
      · exact ⟨nofun, fun _ => .nothing⟩
  apply meets_bind saved
  intro _
  apply meets_query
  · exact fun tables _ done _ => .account dated nofun done
  · -- the row stays although the answer is an error
    intro tables error done unread
    refine .account dated (fun _ back => ?_) done
    obtain ⟨found, read⟩ := read_saved_account done back
    cases read.symm.trans unread

/-- Updating an account makes of the tables what its step may make of them. -/
theorem meets_updateAccount (email : String) (patch : AccountPatch) :
    Meets setting (fun tables => tables = start) (updateAccount email patch)
      (fun _ => (Step.updateAccount email patch).Makes setting false start)
      fun _ => (Step.updateAccount email patch).Makes setting true start := by
  apply meets_now
  intro stamp dated
  have changed : Meets setting (fun tables => tables = start)
      (Engine.about (statement [.itself .accounts] fun triggers =>
        Tables.updateAccount triggers email patch (.text stamp.stored)) accountEntity email)
      (fun count tables =>
        Tables.updateAccount [] email patch (.text stamp.stored) start = .ok (count, tables))
      fun _ => (Step.updateAccount email patch).Makes setting true start := by
    apply meets_statement
    · rintro tables count after rfl done
      exact done
    · rintro tables refusal rfl refused
      obtain ⟨rfl, -⟩ := updateAccount_error refused
      exact ⟨nofun, fun _ => .nothing⟩
  apply meets_bind changed
  intro count
  by_cases nobody : count = 0
  · rw [if_pos nobody]
    apply meets_throw
    intro tables done
    rcases updateAccount_eq_ok done with ⟨-, rfl, -⟩ | ⟨somebody, -⟩
    · exact .nothing
    · contradiction
  · rw [if_neg nobody]
    exact meets_pure fun tables done => .patch dated done

end Accounts

section Articles

/-- Deleting an article makes of the tables what its step may make of them. -/
theorem meets_removeArticle (authorId : Int64) (slug : String) :
    Meets setting (fun tables => tables = start) (removeArticle authorId slug)
      (fun _ => (Step.deleteArticle authorId slug).Makes setting false start)
      fun _ => (Step.deleteArticle authorId slug).Makes setting true start := by
  apply meets_now
  intro stamp dated
  have marked : Meets setting (fun tables => tables = start)
      (Engine.about (statement [.itself .articles] fun triggers =>
        tombstoneArticle triggers authorId slug (.integer (Int64.ofInt stamp.unix))
          (.text stamp.stored)) articleEntity slug)
      (fun chosen tables => tombstoneArticle [] authorId slug
          (.integer (Int64.ofInt stamp.unix)) (.text stamp.stored) start = .ok (chosen, tables))
      fun _ => (Step.deleteArticle authorId slug).Makes setting true start := by
    apply meets_statement
    · rintro tables chosen after rfl done
      exact done
    · rintro tables refusal rfl refused
      exact (tombstoneArticle_ne_error refused).elim
  apply meets_bind marked
  intro chosen
  cases chosen with
  | none =>
    apply meets_throw
    intro tables done
    rcases tombstoneArticle_eq_ok done with ⟨-, rfl, -⟩ | ⟨_, -, -, never, -⟩
    · exact .nothing
    · cases never
  | some id =>
    apply meets_execute
    · exact fun tables after done detached => .removal dated done detached
    · exact fun tables refusal _ refused => (deleteLinks_ne_error refused).elim

/-- A tag with a name that is there is read. -/
theorem read_tag {tables : Tables} {name : String}
    (known : ∃ row ∈ tables.tags, row.name = .text name) :
    ∃ tag, firstRow Row.tag
        ((tables.tags.filter fun row => row.name = .text name).map TagRow.columns) = .ok tag ∧
      tag.name = name ∧ tables.HasTag tag := by
  obtain ⟨row, there, named⟩ := known
  cases chosen : tables.tags.filter fun row => row.name = .text name with
  | nil =>
    have never := List.filter_eq_nil_iff.mp chosen row there
    exact absurd (decide_eq_true named) never
  | cons first rest =>
    have present : first ∈ tables.tags.filter fun row => row.name = .text name :=
      chosen ▸ List.mem_cons_self
    obtain ⟨in_tags, first_named⟩ := List.mem_filter.mp present
    have named := of_decide_eq_true first_named
    refine ⟨⟨first.id, name⟩, TagRow.read named, rfl, ?_⟩
    unfold HasTag
    rw [← named]
    exact in_tags

/-- Asking for a tag answers with a tag of that name, which the tables then have.  It fails without
a trace, and only outside of a unit of work. -/
theorem meets_saveTag (name : String) :
    Meets setting (fun tables => tables = start) (saveTag name)
      (fun tag tables =>
        upsertTag [] name start = .ok tables ∧ tag.name = name ∧ tables.HasTag tag)
      fun _ tables => setting.outside ∧ tables = start := by
  have asked : Meets setting (fun tables => tables = start)
      (Engine.about (execute [.itself .tags] fun triggers => upsertTag triggers name) tagEntity name)
      (fun _ tables => upsertTag [] name start = .ok tables)
      fun _ tables => setting.outside ∧ tables = start := by
    apply meets_execute
    · rintro tables after rfl done
      exact done
    · rintro tables refusal rfl refused
      obtain rfl := upsertTag_error refused
      exact ⟨fun _ => rfl, fun outside => ⟨outside rfl, rfl⟩⟩
  have known {tables : Tables} (done : upsertTag [] name start = .ok tables) :
      ∃ row ∈ tables.tags, row.name = .text name := by
    obtain ⟨id, -, ⟨there, rfl⟩ | ⟨-, rfl⟩⟩ := upsertTag_eq_ok done
    · exact there
    · exact ⟨_, List.mem_append_right _ List.mem_cons_self, rfl⟩
  apply meets_bind asked
  intro _
  apply meets_query
  · intro tables tag done found
    obtain ⟨other, read, named, there⟩ := read_tag (known done)
    cases read.symm.trans found
    exact ⟨done, named, there⟩
  · intro tables error done missed
    obtain ⟨other, read, -⟩ := read_tag (known done)
    cases read.symm.trans missed

/-- The tags of a list are asked for one after the other, until there are no more ids. -/
theorem meets_saveTags (names : List String) :
    Meets setting (fun tables => tables = start) (names.mapM saveTag)
      (fun tags tables => start.upsertTags names = .ok tables ∧ tags.map Tag.name = names ∧
        ∀ tag ∈ tags, tables.HasTag tag)
      fun _ tables => setting.outside ∧ ∃ known, known <+: names ∧
        start.upsertTags known = .ok tables := by
  have step : ∀ done name rest values, names = done ++ name :: rest →
      Meets setting
        (fun tables => start.upsertTags done = .ok tables ∧ values.map Tag.name = done ∧
          ∀ tag ∈ values, tables.HasTag tag)
        (saveTag name)
        (fun tag tables => start.upsertTags (done ++ [name]) = .ok tables ∧
          (values ++ [tag]).map Tag.name = done ++ [name] ∧
          ∀ other ∈ values ++ [tag], tables.HasTag other)
        fun _ tables => setting.outside ∧ ∃ known, known <+: names ∧
          start.upsertTags known = .ok tables := by
    intro done name rest values all
    apply meets_each
    rintro tables ⟨asked, named, there⟩
    apply (meets_saveTag name).mono (fun _ given => given)
    · rintro tag after ⟨made, own_name, own⟩
      refine ⟨upsertTags_append.mpr ⟨tables, asked, made⟩, by simp [named, own_name], ?_⟩
      exact List.forall_mem_append.mpr ⟨fun other old => (there other old).upsertTag made,
        List.forall_mem_singleton.mpr own⟩
    · rintro error _ ⟨outside, rfl⟩
      exact ⟨outside, done, ⟨name :: rest, all.symm⟩, asked⟩
  apply (meets_mapM (motive := fun done values tables => start.upsertTags done = .ok tables ∧
    values.map Tag.name = done ∧ ∀ tag ∈ values, tables.HasTag tag) step).mono
  · rintro tables rfl
    exact ⟨rfl, rfl, by simp⟩
  · exact fun _ _ given => given
  · exact fun _ _ given => given

/-- The tags of an article without links are attached one after the other, until one comes that has
been there before. -/
theorem meets_attachTags {id : Int64} {tags : List Tag} (sane : start.Integrity)
    (article : ∃ row ∈ start.articles, row.id = id)
    (bare : ∀ link ∈ start.links, link.articleId ≠ .integer id)
    (there : ∀ tag ∈ tags, start.HasTag tag) :
    Meets setting (fun tables => tables = start)
      (forIn tags PUnit.unit fun tag _ => do
        Engine.about (execute [.itself .articleTags, .referred .tags, .referred .articles]
          fun triggers => Tables.insertLink triggers id tag.id) tagEntity tag.name
        pure (ForInStep.yield PUnit.unit))
      (fun _ tables => start.attachTags id tags = .ok tables)
      fun _ tables => ∃ done tag rest, tags = done ++ tag :: rest ∧ tag.name ∈ done.map Tag.name ∧
        start.attachTags id done = .ok tables := by
  have step : ∀ done tag rest, tags = done ++ tag :: rest →
      Meets setting
        (fun tables => start.attachTags id done = .ok tables ∧ ∀ link ∈ tables.links,
          link.articleId = .integer id → ∃ other ∈ done, link.tagId = .integer other.id)
        (Engine.about (execute [.itself .articleTags, .referred .tags, .referred .articles]
          fun triggers => Tables.insertLink triggers id tag.id) tagEntity tag.name)
        (fun _ tables => start.attachTags id (done ++ [tag]) = .ok tables ∧ ∀ link ∈ tables.links,
          link.articleId = .integer id → ∃ other ∈ done ++ [tag], link.tagId = .integer other.id)
        fun _ tables => ∃ done tag rest, tags = done ++ tag :: rest ∧ tag.name ∈ done.map Tag.name ∧
          start.attachTags id done = .ok tables := by
    intro done tag rest all
    have own : start.HasTag tag := there tag (by simp [all])
    apply meets_execute
    · rintro tables after ⟨attached, linked⟩ made
      refine ⟨attachTags_append.mpr ⟨tables, attached, made⟩, ?_⟩
      obtain ⟨-, -, -, rfl⟩ := insertLink_eq_ok made
      intro link placed referring
      rcases mem_place placed with rfl | old
      · exact ⟨tag, by simp, rfl⟩
      · obtain ⟨other, in_done, same⟩ := linked link old referring
        exact ⟨other, List.mem_append_left _ in_done, same⟩
    · rintro tables refusal ⟨attached, linked⟩ refused
      rcases insertLink_error refused with ⟨rfl, link, present, referring, same⟩ | ⟨rfl, missing⟩
      · refine ⟨nofun, fun _ => ⟨done, tag, rest, all, ?_, attached⟩⟩
        -- two tags with one id have one name
        obtain ⟨other, in_done, same_other⟩ := linked link present referring
        have other_there : start.HasTag other := there other (by simp [all, in_done])
        have one : (⟨tag.id, .text tag.name⟩ : TagRow) = ⟨other.id, .text other.name⟩ :=
          sane.tagIds.eq_of_id own other_there (Cell.integer.inj (same.symm.trans same_other))
        obtain ⟨-, one_name⟩ := TagRow.mk.inj one
        exact List.mem_map.mpr ⟨other, in_done, (Cell.text.inj one_name).symm⟩
      · obtain ⟨links, rfl⟩ := attachTags_eq_ok attached
        rcases missing with no_article | no_tag
        · obtain ⟨row, present, same⟩ := article
          exact absurd same (no_article row present)
        · have known : (start.tag? (.integer tag.id)).isSome :=
            Integrity.tag?_isSome ⟨tag.id, List.mem_map_of_mem own, rfl⟩
          rw [Option.isNone_iff_eq_none] at no_tag
          have same : start.tag? (.integer tag.id) = none := no_tag
          rw [same] at known
          cases known
  apply (meets_forIn (motive := fun done tables => start.attachTags id done = .ok tables ∧
    ∀ link ∈ tables.links, link.articleId = .integer id →
      ∃ other ∈ done, link.tagId = .integer other.id) step).mono
  · rintro tables rfl
    exact ⟨rfl, fun link present same => absurd same (bare link present)⟩
  · exact fun _ _ given => given.1
  · exact fun _ _ given => given

/-- A lookup answers what the tables hold under the slug. -/
theorem meets_lookup (slug : String) :
    Meets setting (fun tables => tables = start) (findArticle slug)
      (fun article tables => tables = start ∧ start.lookup slug = .ok article)
      fun error tables => tables = start ∧ start.lookup slug = .error error := by
  rintro db holds rfl
  rw [run_findArticle holds.toHealthy]
  cases found : db.tables.lookup slug with
  | ok article => exact .done (.refl db) rfl ⟨rfl, rfl⟩
  | error error => exact .failed (.refl db) rfl ⟨rfl, rfl⟩

/-- Steps that all succeed, do so one after the other. -/
theorem exists_mapM_ok {ε α β : Type} {read : α → Except ε β} {items : List α}
    (h : ∀ item ∈ items, ∃ value, read item = .ok value) :
    ∃ values, items.mapM read = .ok values := by
  induction items with
  | nil => exact ⟨[], rfl⟩
  | cons item items ih =>
    obtain ⟨value, first⟩ := h item List.mem_cons_self
    obtain ⟨values, rest⟩ := ih fun other there => h other (List.mem_cons_of_mem _ there)
    refine ⟨value :: values, ?_⟩
    rw [List.mapM_cons, first, bind_ok_iff]
    exact ⟨value, rfl, by rw [rest]; rfl⟩

/-- The first active article with a slug is found if its stamps are read back. -/
theorem exists_lookup {tables : Tables} {shown : Instant → Prop} (orderly : tables.Orderly shown)
    {slug : String} {row : ArticleRow} (first : (tables.activeWithSlug slug).head? = some row)
    (written : row.Written Instant.ReadsBack) : ∃ article, tables.lookup slug = .ok article := by
  have there : row ∈ tables.articles := List.mem_of_mem_filter (List.mem_of_mem_head? first)
  obtain ⟨account, found⟩ := Option.isSome_iff_exists.mp (orderly.sound.authors row there)
  have account_written := orderly.accounts account (List.mem_of_find?_eq_some found)
  obtain ⟨article, read, -⟩ := written.read account_written
  obtain ⟨stores, shows_, -⟩ := Row.article_columns.mp read
  have tags_read : ∀ columns ∈ tables.tagRows row.id, ∃ tag, Row.tag columns = .ok tag := by
    intro columns attached
    obtain ⟨link, -, joined⟩ := List.mem_filterMap.mp attached
    obtain ⟨tag, tag_found, rfl⟩ := Option.map_eq_some_iff.mp joined
    obtain ⟨name, named⟩ := orderly.tags tag (List.mem_of_find?_eq_some tag_found)
    exact ⟨_, TagRow.read named⟩
  obtain ⟨tags, all_read⟩ := exists_mapM_ok tags_read
  exact ⟨{ article with tags }, (lookup_eq_ok orderly.sound).mpr
    ⟨row, account, first, found, { stores with }, shows_, all_read⟩⟩

/-- If a slug was free, a new article with it is the only active one. -/
theorem activeWithSlug_append {article : NewArticle} {id : Int64} {stamp : Cell} {after : Tables}
    (free : start.activeWithSlug article.slug = [])
    (added : after.articles = start.articles ++ [article.row id stamp]) :
    after.activeWithSlug article.slug = [article.row id stamp] := by
  unfold activeWithSlug at free ⊢
  rw [added]
  apply filter_append_new
  · intro row there
    exact Bool.not_eq_true _ ▸ List.filter_eq_nil_iff.mp free row there
  · simp [NewArticle.row, ArticleRow.isActive]

/-- An article that has just been saved is found if its stamp is read back. -/
theorem read_saved_article {article : NewArticle} {stamp : Instant} {id : Int64} {tags : List Tag}
    {published after : Tables} (orderly : after.Orderly setting.shown)
    (done : Tables.insertArticle [] article (.text stamp.stored) start = .ok (id, published))
    (attached : published.attachTags id tags = .ok after) (back : stamp.ReadsBack) :
    ∃ saved, after.lookup article.slug = .ok saved := by
  obtain ⟨next, free, -, rfl⟩ := insertArticle_eq_ok done
  obtain ⟨links, rfl⟩ := attachTags_eq_ok attached
  refine exists_lookup orderly ?_ (article.written_row id back)
  rw [activeWithSlug_append free rfl]
  rfl

/-- Saving an article makes of the tables what its step may make of them. -/
theorem meets_insertArticle (article : NewArticle) (orderly : start.Orderly setting.shown) :
    Meets setting (fun tables => tables = start) (insertArticle article)
      (fun _ => (Step.saveArticle article).Makes setting false start)
      fun _ => (Step.saveArticle article).Makes setting true start := by
  unfold insertArticle
  by_cases named : article.slug = ""
  · rw [if_pos named]
    apply meets_throw_bind
    rintro tables rfl
    exact .nothing
  rw [if_neg named]
  -- no part undoes the ones before it, so each one is told to fail with what they have made
  have tags_saved : Meets setting (fun tables => tables = start) (article.tags.mapM saveTag)
      (fun tags tables => start.upsertTags article.tags = .ok tables ∧
        tags.map Tag.name = article.tags ∧ ∀ tag ∈ tags, tables.HasTag tag)
      fun _ => (Step.saveArticle article).Makes setting true start := by
    apply (meets_saveTags article.tags).mono (fun _ given => given) (fun _ _ given => given)
    rintro error tables ⟨outside, known, part, asked⟩
    exact .tags named part (.inr outside) asked
  apply meets_bind tags_saved
  intro tags
  apply meets_now
  intro stamp dated
  have article_saved : Meets setting
      (fun tables => start.upsertTags article.tags = .ok tables ∧
        tags.map Tag.name = article.tags ∧ ∀ tag ∈ tags, tables.HasTag tag)
      (Engine.about (statement [.itself .articles, .referred .accounts] fun triggers =>
        Tables.insertArticle triggers article (.text stamp.stored)) articleEntity article.slug)
      (fun id published => tags.map Tag.name = article.tags ∧ ∃ tagged,
        start.upsertTags article.tags = .ok tagged ∧ (∀ tag ∈ tags, tagged.HasTag tag) ∧
          Tables.insertArticle [] article (.text stamp.stored) tagged = .ok (id, published))
      fun _ => (Step.saveArticle article).Makes setting true start := by
    apply meets_statement
    · rintro tagged id published ⟨asked, names, there⟩ done
      exact ⟨names, tagged, asked, there, done⟩
    · rintro tagged refusal ⟨asked, -, -⟩ refused
      have left : (Step.saveArticle article).Makes setting true start tagged :=
        .tags named (List.prefix_refl _) (.inl rfl) asked
      rcases insertArticle_error refused with rfl | rfl | rfl
      · exact ⟨fun _ => rfl, fun _ => left⟩
      · exact ⟨nofun, fun _ => left⟩
      · exact ⟨nofun, fun _ => left⟩
  apply meets_bind article_saved
  intro id
  apply meets_each
  rintro published ⟨names, tagged, asked, there, done⟩
  have tagged_orderly := orderly.upsertTags asked
  have published_sane := tagged_orderly.toIntegrity.insertArticle named done
  have tags_attached : Meets setting (fun tables => tables = published)
      (forIn tags PUnit.unit fun tag _ => do
        Engine.about (execute [.itself .articleTags, .referred .tags, .referred .articles]
          fun triggers => Tables.insertLink triggers id tag.id) tagEntity tag.name
        pure (ForInStep.yield PUnit.unit))
      (fun _ tables => published.attachTags id tags = .ok tables)
      fun _ => (Step.saveArticle article).Makes setting true start := by
    obtain ⟨next, -, -, rfl⟩ := insertArticle_eq_ok done
    apply (meets_attachTags published_sane ?_ ?_ there).mono (fun _ given => given)
      (fun _ _ given => given)
    · rintro error tables ⟨before, tag, rest, all, again, attached⟩
      have all_names : article.tags = before.map Tag.name ++ tag.name :: rest.map Tag.name := by
        rw [← names, all, List.map_append, List.map_cons]
      exact .repeated named dated asked done all_names again
        (fun other in_before => there other (by simp [all, in_before])) attached
    · exact ⟨_, List.mem_append_right _ List.mem_cons_self, rfl⟩
    · -- no link of the tables before refers to the new id
      intro link present same
      obtain ⟨other, given, referred⟩ := (tagged_orderly.linked link present).1
      obtain ⟨row, old, rfl⟩ := List.mem_map.mp given
      exact tagged_orderly.articleIds.ne_next next old
        (Cell.integer.inj (referred.symm.trans same))
  apply meets_bind tags_attached
  intro _
  apply meets_each
  intro after attached
  have published_orderly := tagged_orderly.publish named dated done attached
  apply (meets_lookup article.slug).mono (fun _ given => given)
  · rintro saved tables ⟨rfl, -⟩
    exact .article named dated nofun asked done names there attached
  · rintro error tables ⟨rfl, missed⟩
    refine .article named dated (fun _ back => ?_) asked done names there attached
    obtain ⟨saved, found⟩ := read_saved_article published_orderly done attached back
    cases found.symm.trans missed

end Articles

section Comments

/-- A comment that has just been saved is read back if its stamp is. -/
theorem read_saved_comment {slug : String} {comment : NewComment} {id : Int64} {stamp : Instant}
    {after : Tables} (orderly : start.Orderly setting.shown)
    (done : insertComment [] slug comment (.text stamp.stored) start = .ok (id, after))
    (back : stamp.ReadsBack) :
    ∃ saved, firstRow Row.comment
      ((after.comments.filter fun row => row.id = id).filterMap after.commentColumns?) =
        .ok saved := by
  obtain ⟨next, known, rfl⟩ := insertComment_eq_ok done
  obtain ⟨author, found⟩ := Option.isSome_iff_exists.mp known
  rw [filter_append_new fun row there => decide_eq_false (orderly.commentIds.ne_next next there)]
  · have joined : Tables.commentColumns? { start with
        comments := start.comments ++ [comment.row slug id (.text stamp.stored)], lastComment := id }
        (comment.row slug id (.text stamp.stored)) =
          some ((comment.row slug id (.text stamp.stored)).columns author) :=
      Option.map_eq_some_iff.mpr ⟨author, found, rfl⟩
    rw [List.filterMap_cons, joined]
    have author_written := orderly.accounts author (List.mem_of_find?_eq_some found)
    exact (comment.written_row id back slug).read author_written rfl
  · exact decide_eq_true rfl

/-- Saving a comment makes of the tables what its step may make of them. -/
theorem meets_saveComment (slug : String) (comment : NewComment)
    (orderly : start.Orderly setting.shown) :
    Meets setting (fun tables => tables = start) (saveComment slug comment)
      (fun _ => (Step.saveComment slug comment).Makes setting false start)
      fun _ => (Step.saveComment slug comment).Makes setting true start := by
  have counted : Meets setting (fun tables => tables = start)
      (Engine.about (query [.articles] fun tables =>
        .ok (tables.activeWithSlug slug).length) articleEntity slug)
      (fun count tables => tables = start ∧ count = (start.activeWithSlug slug).length)
      fun _ => (Step.saveComment slug comment).Makes setting true start := by
    apply meets_query
    · rintro tables count rfl counted
      cases counted
      exact ⟨rfl, rfl⟩
    · exact fun tables error _ never => nomatch never
  apply meets_bind counted
  intro count
  by_cases unpublished : count = 0
  · rw [if_pos unpublished]
    apply meets_throw_bind
    rintro tables ⟨rfl, -⟩
    exact .nothing
  rw [if_neg unpublished]
  apply meets_now
  intro stamp dated
  have saved : Meets setting
      (fun tables => tables = start ∧ count = (start.activeWithSlug slug).length)
      (Engine.about (statement [.itself .comments, .referred .accounts] fun triggers =>
        insertComment triggers slug comment (.text stamp.stored)) commentEntity slug)
      (fun id tables => start.activeWithSlug slug ≠ [] ∧
        insertComment [] slug comment (.text stamp.stored) start = .ok (id, tables))
      fun _ => (Step.saveComment slug comment).Makes setting true start := by
    apply meets_statement
    · rintro tables id after ⟨rfl, rfl⟩ done
      exact ⟨mt List.length_eq_zero_iff.mpr unpublished, done⟩
    · rintro tables refusal ⟨rfl, -⟩ refused
      rcases insertComment_error refused with rfl | rfl
      · exact ⟨fun _ => rfl, fun _ => .nothing⟩
      · exact ⟨nofun, fun _ => .nothing⟩
  apply meets_bind saved
  intro id
  apply meets_query
  · rintro tables _ ⟨active, done⟩ _
    exact .comment active dated nofun done
  · rintro tables error ⟨active, done⟩ unread
    refine .comment active dated (fun _ back => ?_) done
    obtain ⟨found, read⟩ := read_saved_comment orderly done back
    cases read.symm.trans unread

/-- Marking comments as deleted never fails. -/
theorem meets_tombstoneComments {chosen : CommentRow → Bool} {stamp : Instant} {id : String}
    {bad : StorageError → Tables → Prop} :
    Meets setting (fun tables => tables = start)
      (Engine.about (statement [.itself .comments] fun triggers =>
        tombstoneComments triggers chosen (.text stamp.stored)) commentEntity id)
      (fun count tables =>
        tombstoneComments [] chosen (.text stamp.stored) start = .ok (count, tables)) bad := by
  apply meets_statement
  · rintro tables count after rfl done
    exact done
  · rintro tables refusal rfl refused
    exact (tombstoneComments_ne_error refused).elim

/-- Deleting a comment makes of the tables what its step may make of them. -/
theorem meets_removeComment (authorId : Int64) (slug : String) (id : Int64) :
    Meets setting (fun tables => tables = start) (removeComment authorId slug id)
      (fun _ => (Step.deleteComment authorId slug id).Makes setting false start)
      fun _ => (Step.deleteComment authorId slug id).Makes setting true start := by
  apply meets_now
  intro stamp dated
  apply meets_bind meets_tombstoneComments
  intro count
  by_cases none_marked : count = 0
  · rw [if_pos none_marked]
    apply meets_throw
    intro tables done
    obtain rfl := (tombstoneComments_eq_ok done).2.1 none_marked
    exact .nothing
  · rw [if_neg none_marked]
    exact meets_pure fun tables done => .commentRemoval dated done

/-- Deleting an author's comments makes of the tables what its step may make of them. -/
theorem meets_removeComments (authorId : Int64) (slug : String) :
    Meets setting (fun tables => tables = start) (removeComments authorId slug)
      (fun _ => (Step.deleteComments authorId slug).Makes setting false start)
      fun _ => (Step.deleteComments authorId slug).Makes setting true start := by
  apply meets_now
  intro stamp dated
  apply meets_tombstoneComments.mono (fun _ given => given)
  · exact fun count tables done => .commentsRemoval dated done
  · exact fun _ _ nothing => nothing

end Comments

end Database

/-- On orderly tables a step ends as it is told. -/
theorem Step.meets_perform (tagBatch : Nat) (step : Step) (orderly : start.Orderly setting.shown) :
    Meets setting (fun tables => tables = start) (step.perform tagBatch)
      (fun _ => step.Makes setting false start) fun _ => step.Makes setting true start := by
  have unchanged {failed : Bool} {step : Step} (tables : Tables) (same : tables = start) :
      step.Makes setting failed start tables := same ▸ .nothing
  cases step with
  | saveAccount account => exact meets_saveAccount account
  | updateAccount email patch => exact meets_updateAccount email patch
  | findAccount email =>
    exact (meets_findAccount email).mono (fun _ given => given) (fun _ => unchanged)
      fun _ => unchanged
  | saveArticle article => exact meets_insertArticle article orderly
  | findArticle slug =>
    exact (meets_findArticle slug).mono (fun _ given => given) (fun _ => unchanged)
      fun _ => unchanged
  | listArticles criteria =>
    exact (meets_listArticles tagBatch criteria).mono (fun _ given => given) (fun _ => unchanged)
      fun _ => unchanged
  | deleteArticle authorId slug => exact meets_removeArticle authorId slug
  | saveComment slug comment => exact meets_saveComment slug comment orderly
  | findComments slug =>
    exact (meets_findComments slug).mono (fun _ given => given) (fun _ => unchanged)
      fun _ => unchanged
  | deleteComment authorId slug id => exact meets_removeComment authorId slug id
  | deleteComments authorId slug => exact meets_removeComments authorId slug

end Gazette
