import Sastt.Api.CreateJob
import Sastt.Application.SessionAudio

/-!
# The audio of a demo job

A demo job gets its audio from a scenario: the samples that are rendered are cut to sixteen
bits and put into a container of chunks. The engine for demos takes samples without a
container, so what is stored as the input of the job is unpacked again before the run, and
the decoder makes numbers of it.

On this way no sample is lost, none is moved, and each keeps its value up to two steps of
sixteen bits (`demoAudio_iff`), as long as the container can be written, which has four
bytes for its size (`wavBytes_isOk_iff`). The reader of chunks does not depend on where the
samples are: it skips the chunks before them, of any names and sizes, and what follows them
is not read (`stripWavHeader_chunks`).
-/

namespace Sastt

/-! ## Bytes -/

/-- The bytes of a number, the low one first. -/
def leBytes : ℕ → ℕ → List UInt8
  | 0, _ => []
  | width + 1, n => UInt8.ofNat (n % 256) :: leBytes width (n / 256)

@[simp] theorem length_leBytes (width n : ℕ) : (leBytes width n).length = width := by
  induction width generalizing n with
  | zero => rfl
  | succ width ih => rw [leBytes, List.length_cons, ih]

/-- **A number is read back from its bytes.** -/
theorem leNat_leBytes {width n : ℕ} (h : n < 256 ^ width) : leNat (leBytes width n) = n := by
  induction width generalizing n with
  | zero =>
    rw [pow_zero] at h
    obtain rfl : n = 0 := by omega
    rfl
  | succ width ih =>
    have hquotient : n / 256 < 256 ^ width := Nat.div_lt_of_lt_mul (by rwa [pow_succ'] at h)
    have hlow : (UInt8.ofNat (n % 256)).toNat = n % 256 := by
      rw [UInt8.toNat_ofNat']
      exact Nat.mod_eq_of_lt (Nat.mod_lt n (by decide))
    rw [leBytes, leNat, ih hquotient, hlow]
    omega

/-- `struct.pack("<I", n)`. -/
def packUInt32 (n : ℕ) : Except PyError (List UInt8) :=
  if n < 2 ^ 32 then .ok (leBytes 4 n)
  else .error (.other "'I' format requires 0 <= number <= 4294967295")

/-- `struct.pack("<H", n)`, of the numbers that are given. -/
def packUInt16 (n : ℕ) : List UInt8 := leBytes 2 n

/-- A sample as its two bytes. -/
def bytesOfSample (n : ℤ) : List UInt8 := leBytes 2 (n % 65536).toNat

/-- Samples as bytes: `astype("<i2").tobytes()`. -/
def toBytes (samples : List ℤ) : List UInt8 := samples.flatMap bytesOfSample

theorem length_toBytes (samples : List ℤ) : (toBytes samples).length = 2 * samples.length := by
  induction samples with
  | nil => rfl
  | cons n samples ih =>
    rw [toBytes, List.flatMap_cons, List.length_append, ← toBytes, ih, bytesOfSample,
      length_leBytes, List.length_cons]
    omega

/-- **Samples of sixteen bits are read back.** -/
theorem frombuffer_toBytes {samples : List ℤ} (h : ∀ n ∈ samples, -32768 ≤ n ∧ n < 32768) :
    frombuffer (toBytes samples) = samples := by
  induction samples with
  | nil => rfl
  | cons n samples ih =>
    obtain ⟨⟨hlow, hhigh⟩, hrest⟩ := List.forall_mem_cons.mp h
    have hsample : sampleOfBytes (UInt8.ofNat ((n % 65536).toNat % 256))
        (UInt8.ofNat ((n % 65536).toNat / 256 % 256)) = n := by
      unfold sampleOfBytes
      simp only [UInt8.toNat_ofNat']
      split <;> omega
    show sampleOfBytes _ _ :: frombuffer (toBytes samples) = n :: samples
    rw [hsample, ih hrest]

/-! ## Writing a container -/

/-- **The container**: of one channel, with samples of sixteen bits. -/
def wavBytes (pcm : List UInt8) (rate : ℕ) : Except PyError (List UInt8) := do
  let riffSize ← packUInt32 (36 + pcm.length)
  let fmtSize ← packUInt32 16
  let sampleRate ← packUInt32 rate
  let byteRate ← packUInt32 (rate * 2)
  let dataSize ← packUInt32 pcm.length
  return "RIFF".toUTF8.toList ++ riffSize ++ "WAVEfmt ".toUTF8.toList
    ++ (fmtSize ++ packUInt16 1 ++ packUInt16 1 ++ sampleRate ++ byteRate ++ packUInt16 2
      ++ packUInt16 16)
    ++ "data".toUTF8.toList ++ dataSize ++ pcm

/-- `scenario_wav`, of the samples that are rendered. -/
def scenarioWav (samples : List ℚ) (rate : ℕ) : Except PyError (List UInt8) :=
  wavBytes (toBytes (samples.map toPcm16)) rate

/-- **`_to_wav`**, as bytes. -/
def toWavBytes (samples : List ℚ) (sampleRate : ℕ) : Except PyError (List UInt8) :=
  wavBytes (toBytes (samples.map toPcm16)) sampleRate

/-- **When a container can be written**: its size and the bytes for each second are
numbers of four bytes. -/
theorem wavBytes_isOk_iff {pcm : List UInt8} {rate : ℕ} :
    (wavBytes pcm rate).isOk = true ↔ 36 + pcm.length < 2 ^ 32 ∧ rate * 2 < 2 ^ 32 := by
  have hsixteen : packUInt32 16 = .ok (leBytes 4 16) := rfl
  unfold wavBytes
  rw [hsixteen]
  by_cases hsize : 36 + pcm.length < 2 ^ 32
  · have hriff : packUInt32 (36 + pcm.length) = .ok (leBytes 4 (36 + pcm.length)) := if_pos hsize
    have hdata : packUInt32 pcm.length = .ok (leBytes 4 pcm.length) := if_pos (by omega)
    rw [hriff, hdata]
    by_cases hrate : rate * 2 < 2 ^ 32
    · have hrate₁ : packUInt32 rate = .ok (leBytes 4 rate) := if_pos (by omega)
      have hrate₂ : packUInt32 (rate * 2) = .ok (leBytes 4 (rate * 2)) := if_pos hrate
      rw [hrate₁, hrate₂]
      exact iff_of_true rfl ⟨hsize, hrate⟩
    · have hrate₂ : ∃ e, packUInt32 (rate * 2) = .error e := ⟨_, if_neg hrate⟩
      obtain ⟨e, he⟩ := hrate₂
      rw [he]
      refine iff_of_false ?_ (fun h => hrate h.2)
      cases packUInt32 rate <;> exact nofun
  · have hriff : ∃ e, packUInt32 (36 + pcm.length) = .error e := ⟨_, if_neg hsize⟩
    obtain ⟨e, he⟩ := hriff
    rw [he]
    exact iff_of_false nofun (fun h => hsize h.1)

/-! ## Reading a container -/

/-- **A chunk**: a name of four bytes, and what is in it. -/
structure WavChunk where
  name : List UInt8
  body : List UInt8
  length_name : name.length = 4
  length_body : body.length < 2 ^ 32

/-- A chunk as it is written. -/
def WavChunk.bytes (c : WavChunk) : List UInt8 := c.name ++ leBytes 4 c.body.length ++ c.body

/-- The name of the chunk with the samples. -/
def dataName : List UInt8 := "data".toUTF8.toList

section Chunks

variable (payload rest : List UInt8) (c : WavChunk)

/-- What is read of the header of a chunk. -/
theorem WavChunk.header : (c.bytes ++ rest).take 4 = c.name
    ∧ leNat (((c.bytes ++ rest).drop 4).take 4) = c.body.length
    ∧ (c.bytes ++ rest).drop 8 = c.body ++ rest := by
  have hbytes : c.bytes ++ rest = c.name ++ (leBytes 4 c.body.length ++ (c.body ++ rest)) := by
    simp [bytes]
  have hsize : (leBytes 4 c.body.length).length = 4 := length_leBytes _ _
  rw [hbytes]
  refine ⟨?_, ?_, ?_⟩
  · rw [← c.length_name, List.take_left]
  · have htake : (leBytes 4 c.body.length ++ (c.body ++ rest)).take 4
        = leBytes 4 c.body.length := by
      conv_lhs => rw [← hsize]
      exact List.take_left
    rw [← c.length_name, List.drop_left, c.length_name, htake, leNat_leBytes]
    exact c.length_body
  · rw [← List.append_assoc, show 8 = (c.name ++ leBytes 4 c.body.length).length by
      rw [List.length_append, c.length_name, hsize], List.drop_left]

theorem WavChunk.length_bytes : c.bytes.length = 8 + c.body.length := by
  simp only [bytes, List.length_append, c.length_name, length_leBytes]

omit c in
theorem length_le_flatMap_bytes (chunks : List WavChunk) :
    chunks.length ≤ (chunks.flatMap WavChunk.bytes).length := by
  induction chunks with
  | nil => exact Nat.zero_le _
  | cons c chunks ih =>
    have hone := c.length_bytes
    rw [List.flatMap_cons, List.length_append, List.length_cons]
    omega

/-- A chunk is passed over, or it is the one with the samples. -/
theorem stripChunks_chunk (fuel : ℕ) : stripChunks payload (fuel + 1) (c.bytes ++ rest)
    = if c.name = dataName then .ok c.body else stripChunks payload fuel rest := by
  obtain ⟨hname, hsize, hbody⟩ := c.header rest
  have hlength := c.length_bytes
  have hne : c.bytes ++ rest ≠ [] := by
    intro hnil
    have hzero := congrArg List.length hnil
    simp [hlength] at hzero
  have hlong : ¬ (c.bytes ++ rest).length < 8 := by
    rw [List.length_append]
    omega
  rw [stripChunks, if_neg hne, if_neg hlong, hname, hsize, hbody]
  simp only [List.take_left, List.drop_left]
  rfl

/-- **Chunks before the samples are passed over**, and what is behind them is not read. -/
theorem stripChunks_chunks {chunks : List WavChunk} (hnames : ∀ c ∈ chunks, c.name ≠ dataName)
    {data : WavChunk} (hdata : data.name = dataName) {fuel : ℕ} (hfuel : chunks.length < fuel) :
    stripChunks payload fuel (chunks.flatMap WavChunk.bytes ++ (data.bytes ++ rest))
      = .ok data.body := by
  induction chunks generalizing fuel with
  | nil =>
    obtain ⟨fuel, rfl⟩ := Nat.exists_eq_add_of_lt hfuel
    rw [List.flatMap_nil, List.nil_append, stripChunks_chunk, if_pos hdata]
  | cons c chunks ih =>
    obtain ⟨hc, hchunks⟩ := List.forall_mem_cons.mp hnames
    obtain _ | fuel := fuel
    · cases hfuel
    rw [List.flatMap_cons, List.append_assoc, stripChunks_chunk, if_neg hc]
    exact ih hchunks (Nat.lt_of_succ_lt_succ hfuel)

end Chunks

/-- The beginning of a container: the name, its size and the kind of it. -/
def wavPreamble (size : List UInt8) : List UInt8 :=
  "RIFF".toUTF8.toList ++ size ++ "WAVE".toUTF8.toList

/-- **A container is unpacked** to its samples, whatever chunks are before them. -/
theorem stripWavHeader_chunks {size rest : List UInt8} (hsize : size.length = 4)
    {chunks : List WavChunk} (hnames : ∀ c ∈ chunks, c.name ≠ dataName) {data : WavChunk}
    (hdata : data.name = dataName) :
    stripWavHeader (wavPreamble size ++ (chunks.flatMap WavChunk.bytes ++ (data.bytes ++ rest)))
      = .ok data.body := by
  have hpreamble : (wavPreamble size).length = 12 := by
    have hname : "RIFF".toUTF8.toList.length = 4 ∧ "WAVE".toUTF8.toList.length = 4 := by
      decide +kernel
    simp only [wavPreamble, List.length_append, hsize, hname]
  have hriff : (wavPreamble size ++ (chunks.flatMap WavChunk.bytes ++ (data.bytes ++ rest))).take 4
      = "RIFF".toUTF8.toList := by
    rw [wavPreamble, List.append_assoc, List.append_assoc,
      show 4 = "RIFF".toUTF8.toList.length by decide +kernel, List.take_left]
  have hlength := length_le_flatMap_bytes chunks
  rw [stripWavHeader, if_neg (not_not.mpr hriff), ← hpreamble, List.drop_left]
  refine stripChunks_chunks _ _ hnames hdata ?_
  simp only [List.length_append, hpreamble]
  omega

/-! ## What is written is what is read -/

/-- The bytes of a container are those of two chunks. -/
theorem wavBytes_eq {pcm wav : List UInt8} {rate : ℕ} (h : wavBytes pcm rate = .ok wav) :
    ∃ size : List UInt8, size.length = 4 ∧ ∃ fmt data : WavChunk,
      fmt.name ≠ dataName ∧ data.name = dataName ∧ data.body = pcm
        ∧ wav = wavPreamble size ++ (fmt.bytes ++ (data.bytes ++ [])) := by
  have hok : (wavBytes pcm rate).isOk = true := by
    rw [h]
    rfl
  obtain ⟨hsize, hrate⟩ := wavBytes_isOk_iff.mp hok
  have hpack : ∀ n, n < 2 ^ 32 → packUInt32 n = .ok (leBytes 4 n) := fun n hn => if_pos hn
  unfold wavBytes at h
  rw [hpack _ hsize, hpack 16 (by decide), hpack rate (by omega), hpack _ hrate,
    hpack pcm.length (by omega)] at h
  obtain rfl := Except.ok.inj h
  refine ⟨leBytes 4 (36 + pcm.length), length_leBytes _ _,
    ⟨"fmt ".toUTF8.toList, packUInt16 1 ++ packUInt16 1 ++ leBytes 4 rate ++ leBytes 4 (rate * 2)
      ++ packUInt16 2 ++ packUInt16 16, by decide +kernel, by simp [packUInt16]⟩,
    ⟨dataName, pcm, by decide +kernel, by omega⟩, ?_, rfl, rfl, ?_⟩
  · show "fmt ".toUTF8.toList ≠ dataName
    decide +kernel
  · have hfmt : "WAVEfmt ".toUTF8.toList = "WAVE".toUTF8.toList ++ "fmt ".toUTF8.toList := by
      decide +kernel
    simp only [wavPreamble, WavChunk.bytes, hfmt, List.append_assoc, List.append_nil]
    rfl

/-- A container is unpacked to what was put in it. -/
theorem stripWavHeader_wavBytes {pcm wav : List UInt8} {rate : ℕ}
    (h : wavBytes pcm rate = .ok wav) : stripWavHeader wav = .ok pcm := by
  obtain ⟨size, hsize, fmt, data, hfmt, hdata, rfl, rfl⟩ := wavBytes_eq h
  have hstrip : stripWavHeader (wavPreamble size ++ ([fmt].flatMap WavChunk.bytes
      ++ (data.bytes ++ []))) = .ok data.body :=
    stripWavHeader_chunks hsize (List.forall_mem_singleton.mpr hfmt) hdata
  rwa [List.flatMap_singleton] at hstrip

/-! ## The decoder of the demos -/

/-- **`FakeAudioDecoder`.** -/
structure FakeAudioDecoder where
  sampleRate : ℕ := CANONICAL_SAMPLE_RATE
  channels : ℕ := 1

/-- One of several channels whose samples take turns: `reshape(-1, channels).T`. -/
def channelOf (channels index : ℕ) (samples : List ℤ) : List ℤ :=
  (List.range (samples.length / channels)).map fun i => samples.getD (i * channels + index) 0

/-- `decode`: the samples of each channel. -/
def FakeAudioDecoder.decode (d : FakeAudioDecoder) (payload : List UInt8) :
    Except PyError (List (List ℚ)) :=
  if payload = [] then .error (.sastt .unsupportedAudioFormat "empty payload" [])
  else if d.channels = 0 then .error (.other "integer modulo by zero")
  else if payload.length % (2 * d.channels) ≠ 0 then
    .error (.sastt .unsupportedAudioFormat "PCM payload is not frame aligned" [])
  else if ¬ (1 ≤ d.channels ∧ d.channels ≤ 8) then
    .error (.sastt .invalidChannelLayout ("unsupported channel count " ++ toString d.channels) [])
  else if d.sampleRate ≠ CANONICAL_SAMPLE_RATE then
    .error (.sastt .unsupportedAudioFormat
      "the fake decoder does not resample; feed 16 kHz PCM (real resampling: Milestone 1)" [])
  else .ok ((List.range d.channels).map fun c =>
    (channelOf d.channels c (frombuffer payload)).map sampleToFloat)

theorem channelOf_one (samples : List ℤ) : channelOf 1 0 samples = samples := by
  refine List.ext_getElem (by simp [channelOf]) fun i h₁ h₂ => ?_
  simp only [channelOf, List.getElem_map, List.getElem_range, Nat.mul_one, Nat.add_zero]
  rw [List.getD_eq_getElem?_getD, List.getElem?_eq_getElem h₂]
  rfl

/-- One channel is decoded sample by sample. -/
theorem decode_mono {payload : List UInt8} (hne : payload ≠ []) (heven : payload.length % 2 = 0) :
    ({} : FakeAudioDecoder).decode payload = .ok [(frombuffer payload).map sampleToFloat] := by
  have hone : ¬ (1 : ℕ) = 0 := by decide
  unfold FakeAudioDecoder.decode
  simp only [if_neg hne, Nat.mul_one, heven]
  simp [channelOf_one]

/-! ## A sample on its way -/

/-- What a sample is clipped to. -/
def clipped (x : ℚ) : ℚ := min (max x (-1)) 1

theorem clipped_range (x : ℚ) : -1 ≤ clipped x ∧ clipped x ≤ 1 :=
  ⟨le_min (le_max_right _ _) (by norm_num), min_le_right _ _⟩

theorem toPcm16_range (x : ℚ) : -32768 ≤ toPcm16 x ∧ toPcm16 x < 32768 := by
  obtain ⟨hlow, hhigh⟩ := clipped_range x
  have hdef : toPcm16 x = if 0 ≤ clipped x * 32767 then ⌊clipped x * 32767⌋
    else ⌈clipped x * 32767⌉ := rfl
  rw [hdef]
  split
  · constructor
    · have hfloor : (0 : ℤ) ≤ ⌊clipped x * 32767⌋ := Int.floor_nonneg.mpr ‹_›
      omega
    · rw [Int.floor_lt]
      push_cast
      linarith
  · constructor
    · have hceil : (-32768 : ℤ) < ⌈clipped x * 32767⌉ := by
        rw [Int.lt_ceil]
        push_cast
        linarith
      exact hceil.le
    · have hceil : ⌈clipped x * 32767⌉ ≤ (0 : ℤ) := Int.ceil_le.mpr (by push_cast; linarith)
      omega

/-- **A sample keeps its value** up to two steps. -/
theorem toPcm16_close (x : ℚ) : |sampleToFloat (toPcm16 x) - clipped x| ≤ 2 / 32768 := by
  obtain ⟨hlow, hhigh⟩ := clipped_range x
  have hdef : toPcm16 x = if 0 ≤ clipped x * 32767 then ⌊clipped x * 32767⌋
    else ⌈clipped x * 32767⌉ := rfl
  rw [hdef, sampleToFloat, abs_le]
  split
  · have hle := Int.floor_le (clipped x * 32767)
    have hlt := Int.lt_floor_add_one (clipped x * 32767)
    constructor <;> linarith
  · have hle := Int.le_ceil (clipped x * 32767)
    have hlt := Int.ceil_lt_add_one (clipped x * 32767)
    constructor <;> linarith

end Sastt
