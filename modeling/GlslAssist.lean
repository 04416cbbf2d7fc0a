import GlslAssist.FileTree
import GlslAssist.Main
import GlslAssist.Proofs.Acceptance
import GlslAssist.Proofs.CheckedQueries
import GlslAssist.Proofs.History
import GlslAssist.Proofs.BalancedText
import GlslAssist.Proofs.Rounding
import GlslAssist.Proofs.HoverTokens
import GlslAssist.Proofs.Extension
import GlslAssist.Proofs.SoundSettings
import GlslAssist.Proofs.Offers
import GlslAssist.Proofs.LineEndings
import GlslAssist.Proofs.CalledName
import GlslAssist.Proofs.Tiling
import GlslAssist.Proofs.DisplayOrder
import GlslAssist.Proofs.Narrowing
import GlslAssist.Proofs.LineTable
import GlslAssist.Proofs.ActiveOverload
import GlslAssist.Proofs.FirstFault
import GlslAssist.Proofs.NearestColumn
import GlslAssist.Proofs.KeyedTables
import GlslAssist.Proofs.SettingsShape
import GlslAssist.Proofs.SettingsOrder
import GlslAssist.Proofs.NearestSettings
import GlslAssist.Proofs.KeptCandidates
import GlslAssist.Proofs.OverloadListing
import GlslAssist.Proofs.TrailingIdentifiers
