import LeadRouting.Main
import LeadRouting.Proofs.Order
import LeadRouting.Proofs.Promotion
import LeadRouting.Proofs.Decision
import LeadRouting.Proofs.Admission
import LeadRouting.Proofs.Cycle
import LeadRouting.Proofs.Fairness
import LeadRouting.Proofs.PoolOrder
import LeadRouting.Proofs.FirstMatch
import LeadRouting.Proofs.RuleEdits
import LeadRouting.Proofs.Memory
import LeadRouting.Proofs.Restriction
import LeadRouting.Proofs.Commands
import LeadRouting.Proofs.Passing
import LeadRouting.Proofs.Rewording
import LeadRouting.Proofs.MissingData
import LeadRouting.Proofs.Warnings
import LeadRouting.Proofs.Showing
import LeadRouting.Proofs.ReadingBack
import LeadRouting.Proofs.RuleCodec
import LeadRouting.Proofs.DecisionCodec
import LeadRouting.Proofs.Shapes
import LeadRouting.Proofs.Following
import LeadRouting.Proofs.DeclaredNames
import LeadRouting.Proofs.Outsiders
import LeadRouting.Proofs.SoundRules
import LeadRouting.Proofs.Acceptance
import LeadRouting.Proofs.LocalTimes
import LeadRouting.Proofs.ListedZones
import LeadRouting.Proofs.OpenWindows
import LeadRouting.Proofs.Contradictions
import LeadRouting.Proofs.NumericOperands
import LeadRouting.Proofs.Calls
import LeadRouting.Proofs.Rankings
import LeadRouting.Proofs.Resolution
import LeadRouting.Proofs.Opposites
import LeadRouting.Proofs.Numerals
import LeadRouting.Proofs.Occurrences
import LeadRouting.Proofs.NormalForms
import LeadRouting.Proofs.RequestFaults
import LeadRouting.Proofs.RuleBlocks
import LeadRouting.Proofs.DefaultZone
import LeadRouting.Proofs.RewrittenTimes
