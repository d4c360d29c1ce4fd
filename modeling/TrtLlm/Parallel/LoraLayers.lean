import TrtLlm.Parallel.PipelineLayers

/-! # The LoRA layers of the pipeline ranks

Each pipeline rank counts the pages that the rows of its layers need in a LoRA config, and loads
them. The cache computes the layers of a rank with a formula of its own, which takes all ranks to
have as many layers as the rank itself.
-/

namespace TrtLlm.Parallel

inductive LayerType
  | attention
  | recurrent
  | linear
  | noop
  deriving DecidableEq

/-- `ModelConfig` with the types of the layers. -/
structure TypedModelConfig extends ModelConfig where
  nbAttentionLayers : Nat
  layerTypes : List LayerType := []

namespace TypedModelConfig

variable (config : TypedModelConfig) (ppSize ppRank : Nat)

def countLocalLayers (layerType : LayerType) : Nat :=
  ((config.layerTypes.drop (config.getFirstLocalLayer ppSize ppRank)).take
    (config.getNbLayers ppSize ppRank)).count layerType

def getNbAttentionLayers : Nat :=
  if config.layerTypes.isEmpty then config.nbAttentionLayers / ppSize
  else config.countLocalLayers ppSize ppRank .attention

/-- The rank owns the layer according to the model config. -/
def OwnsLayer (layerId : Int) : Prop :=
  config.getFirstLocalLayer ppSize ppRank ≤ layerId ∧
    layerId < config.getFirstLocalLayer ppSize ppRank + config.getNbLayers ppSize ppRank
  deriving Decidable

/-- On every rank the layer is among the rank's number of attention layers, counted as if all ranks
before it had as many, exactly if the rank owns it. -/
def Aligned (layerId : Int) : Prop := ∀ rank < ppSize,
  (rank * config.getNbAttentionLayers ppSize rank ≤ layerId ∧
    layerId < rank * config.getNbAttentionLayers ppSize rank +
      config.getNbAttentionLayers ppSize rank) ↔ config.OwnsLayer ppSize rank layerId

/-- With `L` layers on `P` ranks the first `L % P` ranks have a layer more. The layer is before the
ones that a rank after them takes too early, past the last of these, or not the first of the
layers of such a rank. -/
def Unshifted (layerId : Nat) : Prop :=
  layerId < config.nbLayers % ppSize * (config.nbLayers / ppSize) ∨
    ppSize * (config.nbLayers / ppSize) ≤ layerId ∧
      layerId < config.nbLayers % ppSize * (config.nbLayers / ppSize + 1) ∨
    config.nbLayers % ppSize * (config.nbLayers / ppSize + 1) ≤ layerId ∧
      config.nbLayers % ppSize ≤ layerId % (config.nbLayers / ppSize)

/-- Each layer has one owner. -/
theorem exists_owner {layerId : Nat} (pos : 0 < ppSize) (isLayer : layerId < config.nbLayers) :
    ∃! rank, rank < ppSize ∧ config.OwnsLayer ppSize rank layerId := by
  have owns_iff : ∀ rank < ppSize, config.OwnsLayer ppSize rank layerId ↔
      Segments.Owns (tensorSplit config.nbLayers ppSize) layerId rank := by
    intro rank isRank
    unfold OwnsLayer Segments.Owns ModelConfig.getFirstLocalLayer ModelConfig.getNbLayers
    rw [start_tensorSplit (Nat.le_of_lt isRank), start_tensorSplit isRank, Nat.succ_mul]
    dsimp only
    split <;> omega
  obtain ⟨rank, owns⟩ := Segments.exists_segment (isLayer.trans_eq (sum_tensorSplit pos).symm)
  have isRank : rank < ppSize := by simpa [tensorSplit] using Segments.Owns.lt_length owns
  refine ⟨rank, ⟨isRank, (owns_iff rank isRank).mpr owns⟩, fun other owner => ?_⟩
  exact Segments.segment_unique ((owns_iff other owner.1).mp owner.2) owns

/-- If all layers are attention layers, only the ranks after the remainder start too early. -/
theorem aligned_iff {layerId : Nat} (attention : ∀ rank < ppSize,
    config.getNbAttentionLayers ppSize rank = config.getNbLayers ppSize rank) {base extra : Nat}
    (isBase : config.nbLayers / ppSize = base) (isExtra : config.nbLayers % ppSize = extra) :
    config.Aligned ppSize layerId ↔ ∀ rank < ppSize, extra ≤ rank →
      (rank * base ≤ layerId ∧ layerId < rank * base + base ↔
        rank * base + extra ≤ layerId ∧ layerId < rank * base + extra + base) := by
  refine forall₂_congr fun rank isRank => ?_
  rw [attention rank isRank]
  unfold OwnsLayer ModelConfig.getFirstLocalLayer ModelConfig.getNbLayers
  rw [isBase, isExtra]
  dsimp only
  norm_cast
  split
  · rename_i early
    rw [Nat.min_eq_left early.le, Nat.mul_succ]
    exact iff_of_true Iff.rfl fun late => absurd early late.not_gt
  · rename_i late
    rw [Nat.min_eq_right (Nat.le_of_not_lt late)]
    exact (imp_iff_right (Nat.le_of_not_lt late)).symm

/-- The layers that the cache and the model config place alike are then known by their number. -/
theorem aligned_iff_unshifted (pos : 0 < ppSize) {layerId : Nat}
    (isLayer : layerId < config.nbLayers)
    (attention : ∀ rank < ppSize,
      config.getNbAttentionLayers ppSize rank = config.getNbLayers ppSize rank) :
    config.Aligned ppSize layerId ↔ config.Unshifted ppSize layerId := by
  rw [config.aligned_iff ppSize attention rfl rfl, Unshifted]
  have total := Nat.div_add_mod config.nbLayers ppSize
  have few := Nat.mod_lt config.nbLayers pos
  generalize config.nbLayers / ppSize = base at *
  generalize config.nbLayers % ppSize = extra at *
  rw [Nat.mul_succ]
  have position := Nat.div_add_mod' layerId base
  have layered : extra * base + extra ≤ layerId → 0 < base := by
    refine fun after => Nat.pos_of_ne_zero fun zero => ?_
    rw [zero, Nat.mul_zero] at total after
    omega
  constructor
  · intro aligned
    by_cases before : layerId < extra * base
    · exact .inl before
    by_cases inside : layerId < ppSize * base
    · -- the rank that takes the layer is after the remainder, and owns it
      have basePos : 0 < base := Nat.pos_of_mul_pos_left (Nat.zero_lt_of_lt inside)
      have late : extra ≤ layerId / base := (Nat.le_div_iff_mul_le basePos).mpr (by omega)
      have start := Nat.mul_le_mul_right base late
      have rest := Nat.mod_lt layerId basePos
      have owned := (aligned _ (Nat.div_lt_of_lt_mul (by rwa [Nat.mul_comm])) late).mp (by omega)
      omega
    · -- no rank takes the layer, so its owner is not after the remainder
      refine .inr (.inl ⟨by omega, Nat.lt_of_not_le fun after => ?_⟩)
      have basePos := layered after
      have late : extra ≤ (layerId - extra) / base :=
        (Nat.le_div_iff_mul_le basePos).mpr (by omega)
      have isRank : (layerId - extra) / base < ppSize :=
        Nat.div_lt_of_lt_mul (by rw [Nat.mul_comm]; omega)
      have place := Nat.div_add_mod' (layerId - extra) base
      have rest := Nat.mod_lt (layerId - extra) basePos
      have last := Nat.mul_le_mul_right base (Nat.succ_le_of_lt isRank)
      rw [Nat.succ_mul] at last
      have taken := (aligned _ isRank late).mpr (by omega)
      omega
  · intro unshifted rank isRank late
    have start := Nat.mul_le_mul_right base late
    have last := Nat.mul_le_mul_right base (Nat.succ_le_of_lt isRank)
    rw [Nat.succ_mul] at last
    rcases unshifted with before | between | after
    · omega
    · omega
    · have rest := Nat.mod_lt layerId (layered after.1)
      rcases Nat.lt_trichotomy rank (layerId / base) with less | same | more
      · have next := Nat.mul_le_mul_right base (Nat.succ_le_of_lt less)
        rw [Nat.succ_mul] at next
        omega
      · rw [← same] at position
        omega
      · have next := Nat.mul_le_mul_right base (Nat.succ_le_of_lt more)
        rw [Nat.succ_mul] at next
        omega

end TypedModelConfig

inductive LoraFailure
  | emptyPages
  | unknownModule
  | moduleLayout
  | outOfRange

structure LoraModule where
  inDim : Nat
  outDim : Nat
  inDimFirst : Bool := false
  outDimFirst : Bool := true
  inTpSplitDim : Int
  outTpSplitDim : Int

namespace LoraModule

variable (module : LoraModule) (adapterSize tpSize : Nat)

def localInDim : Nat := if module.inTpSplitDim = 1 then module.inDim / tpSize else module.inDim

def localOutDim : Nat := if module.outTpSplitDim = 0 then module.outDim / tpSize else module.outDim

def localInSize : Nat :=
  (if module.inTpSplitDim = 0 then adapterSize / tpSize else adapterSize) * module.localInDim tpSize

def localOutSize : Nat :=
  (if module.outTpSplitDim = 1 then adapterSize / tpSize else adapterSize) *
    module.localOutDim tpSize

def localTotalSize (isDora : Bool) : Nat :=
  module.localInSize adapterSize tpSize + module.localOutSize adapterSize tpSize +
    if isDora then module.localOutDim tpSize else 0

end LoraModule

/-- A row of a LoRA config. -/
structure LoraModuleConfig where
  moduleId : Int
  layerId : Int
  adapterSize : Nat
  isDora : Bool

structure TaskLayerModuleConfig where
  pageId : Nat
  slotIdx : Nat
  inSize : Nat
  outSize : Nat
  moduleId : Int
  layerId : Int
  adapterSize : Nat
  numSlots : Nat

/-- A row that is loaded, with its `rowPage` and `rowSlot`. -/
structure RowPlace where
  config : LoraModuleConfig
  page : Nat
  slot : Nat

/-- The configurations in a LoRA cache. -/
structure LoraCache where
  modelConfig : TypedModelConfig
  tpSize : Nat
  ppSize : Nat
  ppRank : Nat
  slotsPerPage : Nat
  pageWidth : Nat
  moduleIdToModule : Int → Option LoraModule

namespace LoraCache

/-- The cache of a pipeline rank. -/
def onRank (cache : LoraCache) (rank : Nat) : LoraCache := { cache with ppRank := rank }

variable (cache : LoraCache)

/-- The layer of a row is between `firstLayerId` and `lastLayerId`. -/
def isLocal (config : LoraModuleConfig) : Bool :=
  let localNumLayers := cache.modelConfig.getNbAttentionLayers cache.ppSize cache.ppRank
  let firstLayerId := cache.ppRank * localNumLayers
  let lastLayerId := firstLayerId + localNumLayers
  firstLayerId ≤ config.layerId && config.layerId < lastLayerId

def findModule (config : LoraModuleConfig) : Except LoraFailure LoraModule :=
  match cache.moduleIdToModule config.moduleId with
  | none => .error .unknownModule
  | some module => .ok module

def rowSlots (module : LoraModule) (config : LoraModuleConfig) : Nat :=
  let localSize := module.localTotalSize config.adapterSize cache.tpSize config.isDora
  (localSize + cache.pageWidth - 1) / cache.pageWidth

/-- The page and the slot of a row. A row that does not fit starts a page. -/
def nextSlot (currPage currSlot numSlots : Nat) : Nat × Nat :=
  if numSlots + currSlot > cache.slotsPerPage then (currPage + 1, 0) else (currPage, currSlot)

/-- The loop of `determineNumPages`. -/
def countPages : List LoraModuleConfig → Nat → Nat → Except LoraFailure Nat
  | [], currPage, _ => .ok currPage
  | config :: rows, currPage, currSlot =>
    if cache.isLocal config then do
      let numSlots := cache.rowSlots (← cache.findModule config) config
      let (page, slot) := cache.nextSlot currPage currSlot numSlots
      countPages rows page (slot + numSlots)
    else countPages rows currPage currSlot

def determineNumPages (rows : List LoraModuleConfig) : Except LoraFailure Nat := do
  let currPage ← cache.countPages rows 0 0
  return currPage + 1

/-- The first loop of `copyToPages`. -/
def placeRows : List LoraModuleConfig → Nat → Nat → Except LoraFailure (List RowPlace)
  | [], _, _ => .ok []
  | config :: rows, currPage, currSlot =>
    if cache.isLocal config then do
      let numSlots := cache.rowSlots (← cache.findModule config) config
      let (page, slot) := cache.nextSlot currPage currSlot numSlots
      let rest ← placeRows rows page (slot + numSlots)
      return ⟨config, page, slot⟩ :: rest
    else placeRows rows currPage currSlot

/-- `copyFn` for a row, without the copies of its weights. -/
def copyFn (pageIds : List Nat) (place : RowPlace) : Except LoraFailure TaskLayerModuleConfig := do
  let config := place.config
  let module ← cache.findModule config
  if module.inDimFirst || !module.outDimFirst ||
      !(module.inTpSplitDim == 1 || module.inTpSplitDim == -1) ||
      !(module.outTpSplitDim == 0 || module.outTpSplitDim == -1) then
    throw .moduleLayout
  match pageIds[place.page]? with
  | none => throw .outOfRange
  | some pageId => return {
      pageId := pageId
      slotIdx := place.slot
      inSize := module.localInSize config.adapterSize cache.tpSize
      outSize := module.localOutSize config.adapterSize cache.tpSize
      moduleId := config.moduleId
      layerId := config.layerId
      adapterSize := config.adapterSize
      numSlots := cache.rowSlots module config }

/-- `copyToPages`, with the rows that are loaded. -/
def copyToPages (rows : List LoraModuleConfig) (pageIds : List Nat) :
    Except LoraFailure (List RowPlace × List TaskLayerModuleConfig) := do
  if pageIds.isEmpty then
    throw .emptyPages
  let places ← cache.placeRows rows 0 0
  return (places, ← places.mapM (cache.copyFn pageIds))

variable {cache} {rows : List LoraModuleConfig}

/-- The rows of local layers have places, and the pages are counted with them. -/
theorem placeRows_spec {currPage currSlot : Nat} {places : List RowPlace}
    (placed : cache.placeRows rows currPage currSlot = .ok places) :
    places.map (·.config) = rows.filter cache.isLocal ∧
      cache.countPages rows currPage currSlot =
        .ok ((places.getLast?.map (·.page)).getD currPage) := by
  induction rows generalizing currPage currSlot places with
  | nil =>
    cases placed
    exact ⟨rfl, rfl⟩
  | cons config rows ih =>
    unfold placeRows at placed
    unfold countPages
    split at placed
    · rename_i here
      obtain ⟨module, found, placed⟩ := Except.bind_eq_ok.mp placed
      dsimp only at placed
      obtain ⟨rest, placedRest, placed⟩ := Except.bind_eq_ok.mp placed
      obtain rfl := Except.pure_eq_ok.mp placed
      obtain ⟨same, counted⟩ := ih placedRest
      constructor
      · rw [List.filter_cons_of_pos here, List.map_cons, same]
      · rw [if_pos here, found, List.getLast?_cons]
        refine counted.trans ?_
        cases rest.getLast? <;> rfl
    · rename_i remote
      obtain ⟨same, counted⟩ := ih placed
      exact ⟨by rw [List.filter_cons_of_neg remote, same], by rw [if_neg remote, counted]⟩

/-- The ranks to which the cache takes a layer to be local are its owners. -/
theorem aligned_iff_isLocal (config : LoraModuleConfig) :
    cache.modelConfig.Aligned cache.ppSize config.layerId ↔ ∀ rank < cache.ppSize,
      ((cache.onRank rank).isLocal config ↔
        cache.modelConfig.OwnsLayer cache.ppSize rank config.layerId) := by
  simp [TypedModelConfig.Aligned, isLocal, onRank]

variable {pageIds : Nat → List Nat}
  {loaded : Nat → List RowPlace × List TaskLayerModuleConfig}

/-- A rank loads the rows of its layers, and counts the pages of the rows that it loads. -/
structure Loads (cache : LoraCache) (rows : List LoraModuleConfig) (rank : Nat)
    (places : List RowPlace) : Prop where
  owned : places.map (·.config) = rows.filter fun config =>
    cache.modelConfig.OwnsLayer cache.ppSize rank config.layerId
  counted : (cache.onRank rank).determineNumPages rows =
    .ok ((places.getLast?.map (·.page)).getD 0 + 1)

/-- A rank loads the rows that the cache takes to be local, and counts their pages. -/
theorem copyToPages_spec {rank : Nat} {pageIds : List Nat}
    {loaded : List RowPlace × List TaskLayerModuleConfig}
    (copied : (cache.onRank rank).copyToPages rows pageIds = .ok loaded) :
    loaded.1.map (·.config) = rows.filter (cache.onRank rank).isLocal ∧
      (cache.onRank rank).determineNumPages rows =
        .ok ((loaded.1.getLast?.map (·.page)).getD 0 + 1) := by
  unfold copyToPages at copied
  split at copied
  · cases copied
  · obtain ⟨places, placed, copied⟩ := Except.bind_eq_ok.mp copied
    obtain ⟨locations, -, copied⟩ := Except.bind_eq_ok.mp copied
    rw [← Except.pure_eq_ok.mp copied]
    obtain ⟨same, counted⟩ := placeRows_spec placed
    exact ⟨same, by rw [determineNumPages, counted]; rfl⟩

/-- Each row of a layer is loaded on one rank, which owns the layer, exactly if the layers of the
rows are aligned. If all layers are attention layers, the number of a layer tells whether it is. -/
theorem lora_rows_loaded (pos : 0 < cache.ppSize) (copied : ∀ rank < cache.ppSize,
      (cache.onRank rank).copyToPages rows (pageIds rank) = .ok (loaded rank)) :
    ((∀ config ∈ rows, 0 ≤ config.layerId → config.layerId < cache.modelConfig.nbLayers →
      ∃! rank, rank < cache.ppSize ∧ config ∈ (loaded rank).1.map (·.config)) ∧
    (∀ rank < cache.ppSize, cache.Loads rows rank (loaded rank).1) ↔
      ∀ config ∈ rows, cache.modelConfig.Aligned cache.ppSize config.layerId) ∧
    ((∀ rank < cache.ppSize, cache.modelConfig.getNbAttentionLayers cache.ppSize rank =
      cache.modelConfig.getNbLayers cache.ppSize rank) → ∀ layerId < cache.modelConfig.nbLayers,
        (cache.modelConfig.Aligned cache.ppSize layerId ↔
          cache.modelConfig.Unshifted cache.ppSize layerId)) := by
  refine ⟨⟨fun ⟨_, each⟩ config mem => (aligned_iff_isLocal config).mpr fun rank isRank => ?_,
    fun aligned => ?_⟩, fun attention layerId isLayer =>
      cache.modelConfig.aligned_iff_unshifted _ pos isLayer attention⟩
  · have same := (copyToPages_spec (copied rank isRank)).1.symm.trans (each rank isRank).owned
    have kept : config ∈ rows.filter (cache.onRank rank).isLocal ↔ config ∈ rows.filter _ :=
      iff_of_eq (congrArg (config ∈ ·) same)
    simpa [mem] using kept
  have each : ∀ rank < cache.ppSize, cache.Loads rows rank (loaded rank).1 := by
    intro rank isRank
    obtain ⟨same, counted⟩ := copyToPages_spec (copied rank isRank)
    refine ⟨same.trans (List.filter_congr fun config mem => ?_), counted⟩
    rw [Bool.eq_iff_iff, (aligned_iff_isLocal config).mp (aligned config mem) rank isRank,
      decide_eq_true_eq]
  refine ⟨fun config mem nonneg lt => ?_, each⟩
  obtain ⟨layerId, isNat⟩ := Int.eq_ofNat_of_zero_le nonneg
  have owner := cache.modelConfig.exists_owner _ pos (Int.ofNat_lt.mp (isNat ▸ lt))
  refine (existsUnique_congr fun rank => and_congr_right fun isRank => ?_).mpr owner
  rw [(each rank isRank).owned, List.mem_filter, decide_eq_true_eq, isNat]
  exact and_iff_right mem

/-- Two pipeline ranks and layers that are all attention layers. -/
def twoStages (nbLayers : Nat) : LoraCache where
  modelConfig := ⟨⟨nbLayers⟩, nbLayers, List.replicate nbLayers .attention⟩
  tpSize := 1
  ppSize := 2
  ppRank := 0
  slotsPerPage := 8
  pageWidth := 16
  moduleIdToModule := fun _ => some ⟨4, 4, false, true, -1, -1⟩

/-- A row for each layer. -/
def layerRows (nbLayers : Nat) : List LoraModuleConfig :=
  (List.range nbLayers).map fun layerId : Nat => ⟨0, layerId, 2, false⟩

/-- The rows of the first two of five layers are each loaded on the rank that owns them. -/
theorem lora_rows_loaded_twoOfFive : ∃ loaded : Nat → List RowPlace × List TaskLayerModuleConfig,
    (∀ rank < 2, ((twoStages 5).onRank rank).copyToPages (layerRows 2) [0] = .ok (loaded rank)) ∧
      ∀ rank < 2, (twoStages 5).Loads (layerRows 2) rank (loaded rank).1 := by
  have copied : ∀ rank < 2, ((twoStages 5).onRank rank).copyToPages (layerRows 2) [0] =
      .ok ((((twoStages 5).onRank rank).copyToPages (layerRows 2) [0]).toOption.getD ([], [])) := by
    rintro (_ | _ | rank) isRank
    · rfl
    · rfl
    · omega
  have aligned : ∀ config ∈ layerRows 2, (twoStages 5).modelConfig.Aligned 2 config.layerId := by
    unfold TypedModelConfig.Aligned
    decide
  exact ⟨_, copied, ((lora_rows_loaded Nat.two_pos copied).1.mpr aligned).2⟩

/-- Of five layers the third is loaded on both ranks, and the fifth on none of them. -/
theorem fiveLayers_misplaced : ∃ first second,
    ((twoStages 5).onRank 0).copyToPages (layerRows 5) [0] = .ok first ∧
      ((twoStages 5).onRank 1).copyToPages (layerRows 5) [0] = .ok second ∧
      first.1.map (·.config.layerId) = [0, 1, 2] ∧ second.1.map (·.config.layerId) = [2, 3] ∧
      (twoStages 5).modelConfig.OwnsLayer 2 1 4 :=
  ⟨_, _, rfl, rfl, rfl, rfl, by decide⟩

end LoraCache

end TrtLlm.Parallel
