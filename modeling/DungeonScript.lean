import DungeonScript.Main
import DungeonScript.Proofs.Game.Balance
import DungeonScript.Proofs.Game.Runs
import DungeonScript.Proofs.Game.FirstMet
import DungeonScript.Proofs.Game.WellFormed
import DungeonScript.Proofs.Game.Refusal
import DungeonScript.Proofs.Game.QuickTexts
import DungeonScript.Proofs.Game.Deferral
import DungeonScript.Proofs.Game.Verdicts
import DungeonScript.Proofs.Rolls
import DungeonScript.Proofs.Game.Preload
import DungeonScript.Proofs.Game.Forgetting
import DungeonScript.Proofs.Game.Announcing
import DungeonScript.Proofs.Game.Dropping
import DungeonScript.Proofs.Game.Entries
import DungeonScript.Proofs.Game.History
import DungeonScript.Proofs.Game.Version
import DungeonScript.Proofs.World.Players
import DungeonScript.Proofs.Machine.Run
import DungeonScript.Proofs.ScriptLine.Written
import DungeonScript.Proofs.LetterCase
import DungeonScript.Proofs.Game.IdleLines
import DungeonScript.Proofs.Game.TunnellerParties
import DungeonScript.Proofs.World.Leading
import DungeonScript.Proofs.World.Headcount
import DungeonScript.Proofs.Game.ResearchLimit
import DungeonScript.Proofs.Game.KindCounts
import DungeonScript.Proofs.Game.EarlyStop
import DungeonScript.Proofs.Scanning
import DungeonScript.Proofs.RollBounds
import DungeonScript.Proofs.World.Killing
import DungeonScript.Proofs.Numerals
import DungeonScript.Proofs.Game.PartyNames
import DungeonScript.Proofs.Game.SpawnLimit
import DungeonScript.Proofs.NumberRange
import DungeonScript.Proofs.LineNumbers
import DungeonScript.Proofs.World.Tables
import DungeonScript.Proofs.Script.Readings
import DungeonScript.Proofs.Game.Alliances
import DungeonScript.Proofs.Game.SetupInBlocks
import DungeonScript.Proofs.World.Points
import DungeonScript.Proofs.Settings
