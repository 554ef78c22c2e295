import IptvCloud.Stream.Proof.Mosaic

/-!
# The picture of a mosaic

The options of a mosaic that is built (`options_of_built`): the images of the inputs, which tile the
screen, and the bars for the sound levels that `HandleCairoDraw` draws over them (`Pictured`).
-/

namespace IptvCloud.Streams.Mosaic

open Wiring Builders Tiling

variable {lib : Library} {run : Run} {config : EncodingConfig} {elements : List Element}
  {options : MosaicImageOptions}

/-! ## The options of a pipeline -/

/-- The stream of a cell of the grid, as it is built. -/
def streamOf (config : EncodingConfig) (screenSize : Int × Int) (grid cell : Nat × Nat) :
    StreamInfo :=
  ⟨imageOf config screenSize grid cell, []⟩

theorem buildTile_options {grid cell : Nat × Nat} {uri : InputUri} {i : Nat} {vmix amix : Element}
    {s : List Element} {r : MosaicImageOptions × List Element}
    (h : (buildTile lib run config vmix amix grid cell uri i options).run s = .ok r) :
    r.1 = { options with
      sreams := options.sreams ++ [streamOf config options.screenSize grid cell] } := by
  obtain ⟨_, _, -, h⟩ := run_bind_ok h
  obtain ⟨_, _, -, h⟩ := run_bind_ok h
  obtain ⟨_, _, -, h⟩ := run_bind_ok h
  obtain ⟨_, _, -, h⟩ := run_bind_ok h
  obtain ⟨_, _, -, h⟩ := run_bind_ok h
  obtain ⟨_, _, -, h⟩ := run_bind_ok h
  obtain ⟨_, _, -, h⟩ := run_bind_ok h
  cases h
  rfl

theorem foldlM_buildTile_options {grid : Nat × Nat} {vmix amix : Element}
    (tiles : List ((Nat × Nat) × InputUri)) (n : Nat) {options : MosaicImageOptions}
    {s : List Element} {r : MosaicImageOptions × List Element}
    (h : ((tiles.zipIdx n).foldlM (fun options tile => buildTile lib run config vmix amix grid
      tile.1.1 tile.1.2 tile.2 options) options : Build _).run s = .ok r) :
    r.1 = { options with
      sreams := options.sreams ++
        tiles.map (fun tile => streamOf config options.screenSize grid tile.1) } := by
  induction tiles generalizing n s options with
  | nil =>
    cases h
    simp
  | cons tile tiles ih =>
    rw [List.zipIdx_cons, List.foldlM_cons] at h
    obtain ⟨options', s₁, h₁, h⟩ := run_bind_ok h
    have hfirst := buildTile_options h₁
    subst hfirst
    rw [ih (n + 1) h, List.append_assoc]
    rfl

/-- The options of a mosaic that is built. -/
theorem options_of_built
    (h : (initPipeline lib run config).run [] = .ok (some options, elements)) :
    ∃ grid, mosaicGrid config.input.length = some grid ∧
      options = if config.haveVideo then
        ⟨(1280, 720), 100, (cells grid).map (streamOf config (1280, 720) grid)⟩ else {} := by
  obtain ⟨grid, conn, s, tiled, hgrid, htiles, hoptions, -, -⟩ := stages_of_built h
  have htiled := foldlM_buildTile_options _ 0 htiles
  have hcells : ((cells grid).zip config.input).map
      (fun tile => streamOf config (1280, 720) grid tile.1) =
        (cells grid).map (streamOf config (1280, 720) grid) := by
    have hfst : ((cells grid).zip config.input).map Prod.fst = cells grid :=
      List.map_fst_zip (length_cells hgrid).1.le
    have hmap := congrArg (List.map (streamOf config (1280, 720) grid)) hfst
    rwa [List.map_map] at hmap
  refine ⟨grid, hgrid, ?_⟩
  rw [hoptions, htiled, List.nil_append, hcells]

/-! ## The tiles -/

/-- The tiles of the picture. -/
def tilesOf (options : MosaicImageOptions) : List Rect := options.sreams.map fun s => s.img.rect

theorem nodup_cells (grid : Nat × Nat) : (cells grid).Nodup :=
  (List.nodup_range.product List.nodup_range : ((List.range grid.1).product _).Nodup)

theorem mem_cells {grid cell : Nat × Nat} :
    cell ∈ cells grid ↔ cell.1 < grid.1 ∧ cell.2 < grid.2 := by
  obtain ⟨r, c⟩ := cell
  simp [cells]

/-- The tile of a cell. -/
def tile (grid cell : Nat × Nat) : Rect := Tiling.cell (1280 / grid.2) (720 / grid.1) cell.1 cell.2

theorem tilesOf_of_built (hvideo : config.haveVideo = true)
    (h : (initPipeline lib run config).run [] = .ok (some options, elements)) :
    ∃ grid, mosaicGrid config.input.length = some grid ∧ options.screenSize = (1280, 720) ∧
      options.rightPadding = 100 ∧ tilesOf options = (cells grid).map (tile grid) := by
  obtain ⟨grid, hgrid, rfl⟩ := options_of_built h
  rw [if_pos hvideo]
  refine ⟨grid, hgrid, rfl, rfl, ?_⟩
  rw [tilesOf, List.map_map]
  refine List.map_congr_left fun c _ => ?_
  show (imageOf config (1280, 720) grid c).rect = tile grid c
  rw [imageOf, if_pos hvideo]
  rfl

/-! ## The bars -/

variable {p : Int} {img : ImageInfo}

/-- The bar of a level and a channel. -/
def bar (p : Int) (img : ImageInfo) (k j : Nat) : Rect :=
  let widthChunk := p.tdiv (2 * channelsCount)
  let heightChunk := img.size.2.tdiv (countChunks * 2)
  ⟨img.xy.1 + img.size.1 - p + widthChunk + widthChunk * j + widthChunk.tdiv 2 * j,
    img.xy.2 + heightChunk + heightChunk * (2 * k), widthChunk, heightChunk⟩

theorem barsOf_eq (p : Int) (img : ImageInfo) : barsOf p img =
    ((List.range countChunks).product (List.range channelsCount)).map fun c =>
      bar p img c.1 c.2 := by
  unfold barsOf List.product
  simp only [List.map_flatMap, List.map_map]
  rfl

theorem bar_eq (hp : 0 ≤ p) (hheight : 0 ≤ img.size.2) (k j : Nat) : bar p img k j =
    ⟨img.xy.1 + img.size.1 - p + p / 4 + (p / 4 + p / 4 / 2) * j,
      img.xy.2 + img.size.2 / 20 + 2 * (img.size.2 / 20) * k, p / 4, img.size.2 / 20⟩ := by
  have hwidthChunk : p.tdiv (2 * channelsCount) = p / 4 := Int.tdiv_eq_ediv_of_nonneg hp
  have hheightChunk : img.size.2.tdiv (countChunks * 2) = img.size.2 / 20 :=
    Int.tdiv_eq_ediv_of_nonneg hheight
  have hgap : (p / 4).tdiv 2 = p / 4 / 2 := Int.tdiv_eq_ediv_of_nonneg (by omega)
  simp only [bar, hwidthChunk, hheightChunk, hgap, Rect.mk.injEq, and_true]
  exact ⟨by ring, by ring⟩

/-- Chunks at a distance of each other end before the next one. -/
theorem chunk_apart {chunk distance : Int} {k k' : Nat} (hchunk : chunk ≤ distance)
    (hdistance : 0 ≤ distance) (h : k < k') : distance * k + chunk ≤ distance * k' := by
  have hnext := succ_mul_le hdistance h
  rw [mul_comm distance, mul_comm distance]
  omega

/-- The bars are in the right padding of their image. -/
theorem bar_inside (hp : 0 ≤ p) (hwidth : p ≤ img.size.1) (hheight : 0 ≤ img.size.2) {k j : Nat}
    (hk : k < countChunks) (hj : j < channelsCount) : Inside (bar p img k j) img.rect := by
  have hright : (p / 4 + p / 4 / 2) * (j : Int) + p / 4 ≤ (p / 4 + p / 4 / 2) * channelsCount :=
    chunk_apart (by omega) (by omega) hj
  have hbottom : 2 * (img.size.2 / 20) * (k : Int) + 2 * (img.size.2 / 20) ≤
      2 * (img.size.2 / 20) * countChunks :=
    chunk_apart le_rfl (by omega) hk
  have hleft : 0 ≤ (p / 4 + p / 4 / 2) * (j : Int) := mul_nonneg (by omega) (Int.natCast_nonneg j)
  have htop : 0 ≤ 2 * (img.size.2 / 20) * (k : Int) := mul_nonneg (by omega) (Int.natCast_nonneg k)
  unfold channelsCount at hright
  unfold countChunks at hbottom
  rw [bar_eq hp hheight]
  constructor
  all_goals
    show _ ≤ _
    simp only [ImageInfo.rect]
    omega

theorem bar_apart (hp : 0 ≤ p) (hheight : 0 ≤ img.size.2) {k j k' j' : Nat}
    (hne : (k, j) ≠ (k', j')) : Apart (bar p img k j) (bar p img k' j') := by
  have hcolumn : ∀ {j j' : Nat}, j < j' →
      (p / 4 + p / 4 / 2) * (j : Int) + p / 4 ≤ (p / 4 + p / 4 / 2) * (j' : Int) := fun h =>
    chunk_apart (by omega) (by omega) h
  have hrow : ∀ {k k' : Nat}, k < k' →
      2 * (img.size.2 / 20) * (k : Int) + img.size.2 / 20 ≤ 2 * (img.size.2 / 20) * (k' : Int) :=
    fun h => chunk_apart (by omega) (by omega) h
  rw [bar_eq hp hheight, bar_eq hp hheight]
  simp only [Apart]
  rcases Nat.lt_trichotomy j j' with hj | rfl | hj
  · have := hcolumn hj
    omega
  · rcases Nat.lt_trichotomy k k' with hk | rfl | hk
    · have := hrow hk
      omega
    · exact absurd rfl hne
    · have := hrow hk
      omega
  · have := hcolumn hj
    omega

/-! ## The picture -/

/-- The picture of a mosaic with the number of inputs: the tiles are apart, and all points of the
screen but for the last two columns of nine inputs lie in one; each has its bars, which stay in the
tile, and no two bars of the picture overlap. -/
structure Pictured (n : Nat) (options : MosaicImageOptions) : Prop where
  tiles : (tilesOf options).length = n
  apart : (tilesOf options).Pairwise Apart
  covers : ∀ x y, (∃ tile ∈ tilesOf options, Covers tile x y) ↔
    Covers ⟨0, 0, 1280, 720⟩ x y ∧ (n = 9 → x < 1278)
  bars : List.Forall₂ (fun tile bars => bars.length = countChunks * channelsCount ∧
    ∀ bar ∈ bars, Inside bar tile) (tilesOf options) (handleCairoDraw options)
  barsApart : (handleCairoDraw options).flatten.Pairwise Apart

/-- The sizes of the cells of a grid. -/
theorem mosaicGrid_sizes {n : Nat} {grid : Nat × Nat} (h : mosaicGrid n = some grid) :
    (100 ≤ (1280 : Int) / grid.2 ∧ 0 < (720 : Int) / grid.1) ∧
      (grid.2 : Int) * (1280 / grid.2) = (if n = 9 then 1278 else 1280) ∧
      (grid.1 : Int) * (720 / grid.1) = 720 := by
  unfold mosaicGrid at h
  split_ifs at h with h₁ h₂ h₄ h₉ h₁₆
  all_goals
    cases h
    subst n
    decide

/-- The bars of an image stay in it, and do not overlap. -/
theorem barsOf_ok (hp : 0 ≤ p) (hwidth : p ≤ img.size.1) (hheight : 0 ≤ img.size.2) :
    (barsOf p img).length = countChunks * channelsCount ∧
      (∀ bar ∈ barsOf p img, Inside bar img.rect) ∧ (barsOf p img).Pairwise Apart := by
  rw [barsOf_eq]
  refine ⟨rfl, fun r hr => ?_, List.pairwise_map.2 ?_⟩
  · obtain ⟨⟨k, j⟩, hmem, rfl⟩ := List.mem_map.1 hr
    obtain ⟨hk, hj⟩ := List.pair_mem_product.1 hmem
    exact bar_inside hp hwidth hheight (List.mem_range.1 hk) (List.mem_range.1 hj)
  · exact (List.nodup_range.product List.nodup_range).imp fun hne => bar_apart hp hheight hne

/-- The picture that is built. -/
theorem pictured_of_built (hvideo : config.haveVideo = true)
    (h : (initPipeline lib run config).run [] = .ok (some options, elements)) :
    Pictured config.input.length options := by
  obtain ⟨grid, hgrid, hscreen, hpadding, htiles⟩ := tilesOf_of_built hvideo h
  obtain ⟨⟨hwidth, hheight⟩, hcolumns, hrows⟩ := mosaicGrid_sizes hgrid
  have hapart : (tilesOf options).Pairwise Apart := by
    rw [htiles]
    exact List.pairwise_map.2 ((nodup_cells grid).imp fun hne =>
      cell_apart (by omega) hheight.le hne)
  have hbars : ∀ stream ∈ options.sreams,
      (barsOf 100 stream.img).length = countChunks * channelsCount ∧
      (∀ bar ∈ barsOf 100 stream.img, Inside bar stream.img.rect) ∧
      (barsOf 100 stream.img).Pairwise Apart := by
    intro stream hmem
    have htile : stream.img.rect ∈ tilesOf options := List.mem_map.2 ⟨stream, hmem, rfl⟩
    rw [htiles] at htile
    obtain ⟨c, -, heq⟩ := List.mem_map.1 htile
    have hw : stream.img.size.1 = 1280 / grid.2 := (congrArg Rect.width heq).symm
    have hh : stream.img.size.2 = 720 / grid.1 := (congrArg Rect.height heq).symm
    exact barsOf_ok (by decide) (by omega) (by omega)
  have hdraw : handleCairoDraw options = options.sreams.map fun stream =>
      barsOf 100 stream.img := by
    unfold handleCairoDraw MosaicImageOptions.isValid
    rw [hscreen, hpadding]
    rfl
  refine ⟨?_, hapart, fun x y => ?_, ?_, ?_⟩
  · rw [htiles, List.length_map, (length_cells hgrid).1]
  · have htile : (∃ tile ∈ tilesOf options, Covers tile x y) ↔
        ∃ i < grid.1, ∃ j < grid.2,
          Covers (Tiling.cell (1280 / grid.2) (720 / grid.1) i j) x y := by
      rw [htiles]
      constructor
      · rintro ⟨_, hmem, hcovers⟩
        obtain ⟨c, hc, rfl⟩ := List.mem_map.1 hmem
        exact ⟨c.1, (mem_cells.1 hc).1, c.2, (mem_cells.1 hc).2, hcovers⟩
      · rintro ⟨i, hi, j, hj, hcovers⟩
        exact ⟨_, List.mem_map.2 ⟨(i, j), mem_cells.2 ⟨hi, hj⟩, rfl⟩, hcovers⟩
    rw [htile, cell_covers (by omega) hheight, hcolumns, hrows]
    simp only [Covers]
    split_ifs with h₉
    · rw [imp_iff_right h₉]
      omega
    · simp only [h₉, false_imp_iff, and_true]
  · rw [hdraw, tilesOf, List.forall₂_map_left_iff, List.forall₂_map_right_iff, List.forall₂_same]
    exact fun stream hmem => ⟨(hbars stream hmem).1, (hbars stream hmem).2.1⟩
  · rw [hdraw, List.pairwise_flatten]
    constructor
    · intro bars hmem
      obtain ⟨stream, hstream, rfl⟩ := List.mem_map.1 hmem
      exact (hbars stream hstream).2.2
    · refine List.pairwise_map.2 ((List.pairwise_map.1 hapart).imp_of_mem ?_)
      intro a b ha hb hab r hr r' hr'
      exact hab.inside ((hbars a ha).2.1 r hr) ((hbars b hb).2.1 r' hr')

end IptvCloud.Streams.Mosaic
